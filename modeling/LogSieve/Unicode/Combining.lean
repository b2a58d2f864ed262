import LogSieve.Unicode.Table

/-!
# Combining characters

Which characters combine with the ones before them, and what pairs of characters combine to.
-/

namespace LogSieve.Unicode

/-- The classes of combining characters, each with its members as runs. Marks of different classes
do not interact. -/
def combiningClasses : List (Nat × String) := [
    (1, "334 5 199b 1 d 7 3e9 2 4 3 a 2 3 2 e94d 1 60b6 5 51a9 1 14c8 3"),
    (6, "16ff0 2"),
    (7, "93c 1 7f 1 7f 1 7f 1 7f 1 ff 1 7f 1 37a 1 afc 1 b1 1 50 1 8d7b 1 6706 1 b8 1 56 1 6b
           1 b2 1 51 2 109 1 7c 1 fc 1 f6 1 182 1 108 1 3fe 1 cc07 1"),
    (8, "3099 2"),
    (9, "94d 1 7f 1 7f 1 7f 1 7f 1 7f 1 7f 1 7f 1 6d 2 10 1 7c 1 6f 1 7f 1 c9 1 b4 2 6d9 2 1e
           1 9d 1 28d 1 e3 1 65 2 46 2 118b 1 7a86 1 25 1 97 1 8e 1 6c 1 135 1 f6 1 5e51 1 606 1
           29 1 e 1 39 1 79 2 8b 1 74 1 b4 1 62 1 80 3 71 1 7f 1 fc 1 7f 1 76 1 74 1 10d 1 103 2
           a1 1 53 1 12 1 51 1 1a5 1 104 2 51 1 1a9 2 41ec 1"),
    (10, "5b0 1"),
    (11, "5b1 1"),
    (12, "5b2 1"),
    (13, "5b3 1"),
    (14, "5b4 1"),
    (15, "5b5 1"),
    (16, "5b6 1"),
    (17, "5b7 1"),
    (18, "5b8 1 e 1"),
    (19, "5b9 2"),
    (20, "5bb 1"),
    (21, "5bc 1"),
    (22, "5bd 1"),
    (23, "5bf 1"),
    (24, "5c1 1"),
    (25, "5c2 1"),
    (26, "fb1e 1"),
    (27, "64b 1 2a4 1"),
    (28, "64c 1 2a4 1"),
    (29, "64d 1 2a4 1"),
    (30, "618 1 35 1"),
    (31, "619 1 35 1"),
    (32, "61a 1 35 1"),
    (33, "651 1"),
    (34, "652 1"),
    (35, "670 1"),
    (36, "711 1"),
    (84, "c55 1"),
    (91, "c56 1"),
    (103, "e38 2"),
    (107, "e48 4"),
    (118, "eb8 2"),
    (122, "ec8 4"),
    (129, "f71 1"),
    (130, "f72 1 7 4 2 1"),
    (132, "f74 1"),
    (202, "321 2 4 2 1aa7 1"),
    (214, "1dce 1"),
    (216, "31b 1 c1d 1 1c22b 2 7 5"),
    (218, "1dfa 1 122f 1"),
    (220, "316 4 2 5 2 4 2 b 5 4 a 3 3 2 4 4 2 2 236 1 4 1 4 1 6 6 2 1 1a 1 8f 2 5 1 2 1 83 1 6
           1 2 1 43 1 2 1 2 3 1 2 1 1 3 1 1 1 1 1 1 1 a9 1 a 1 5b 3 3d 3 33 5 f 1 2 1 2 1 3 3 6
           1 2 2 57 1 5c5 2 1b 1 1 1 8e 1 c6 1 8ad 1 dc 1 66 1 35 6 2 1 1 2 2 2 5 1 12 1 8 1 85
           1 168 5 2 4 d 1 d4 1 7 1 4 1 29 1 3 1 1 1 2e8 1 3 4 883b 3 186 1 5372 7 3cf 1 e2 1
           72c 1 2c 1 ab 1 413 2 1 3 46 2 3 1 1 4 32 1 1 1 c1f5 8 7 2 1362 1 100 1 2e0 7"),
    (222, "59a 1 12 1 138b 1 16f3 1"),
    (224, "302e 2"),
    (226, "1d16d 1"),
    (228, "5ae 1 12fa 1 54d 2 1232 1"),
    (230, "300 15 28 3 2 1 3 1 3 3 3 3 4 1 3 1 7 d 113 5 10a 4 1 3 2 6 6 2 1 2 2 1 14 1 4b 8 3b
           2 2 5 1 2 77 7 2 4 1 1 2 2 2 2 43 1 1 2 1 2 3 1 2 1 1 3 1 1 1 1 1 1 1 2 a0 7 1 1 22 4
           1 9 1 3 1 5 69 2 3 4 2a 5 5 e 2 2 1 2 1 3 6 3 1 2 2 5 51 1 1 2 a9 1 583 2 2 2 3d5 3
           47d 1 15c 1 dc 1 5d 8 33 5 6 2 4 2 2 5 1 12 3 6 1 4 80 1 1 7 15c 3 7 2 4 1 13 1 3 2
           c6 2 1 7 1 2 4 25 5 1 2 1 2d1 2 2 4 3 2 4 1 5 1 1 1 6 1 bfe 3 ee 20 786f 1 4 a 20 2
           50 2 1ee 12 1be 1 1 2 3 2 5 2 1 1 535e 7 7 2 546 5 694 1 28 1 ac 1 23e 4 41 5 13d 2
           9b 3 1 1 35 1 1 1 17b 3 263 7 3 5 e9 1 56d1 7 664e 5 20 4 94 3 dbb 7 1 11 2 7 1 2 1 5
           64 1 a0 7 177 1 3d 4 1ff 1 fe 1 f4 1 2 1 7 2 5 1 24e 6"),
    (232, "315 1 4 1 3d 1 1a9d 1 1235 1 1b4bf 2"),
    (233, "35c 1 2 1 2 1 1a99 1"),
    (234, "35d 2 1 2 1789 1 2e1 1"),
    (240, "345 1")
  ]

/-- Pairs of characters with the one that they combine to. -/
def composites : String :=
  "41 300 c0; 41 301 c1; 41 302 c2; 41 303 c3; 41 308 c4; 41 30a c5; 43 327 c7; 45 300 c8;
   45 301 c9; 45 302 ca; 45 308 cb; 49 300 cc; 49 301 cd; 49 302 ce; 49 308 cf; 4e 303 d1;
   4f 300 d2; 4f 301 d3; 4f 302 d4; 4f 303 d5; 4f 308 d6; 55 300 d9; 55 301 da; 55 302 db;
   55 308 dc; 59 301 dd; 61 300 e0; 61 301 e1; 61 302 e2; 61 303 e3; 61 308 e4; 61 30a e5;
   63 327 e7; 65 300 e8; 65 301 e9; 65 302 ea; 65 308 eb; 69 300 ec; 69 301 ed; 69 302 ee;
   69 308 ef; 6e 303 f1; 6f 300 f2; 6f 301 f3; 6f 302 f4; 6f 303 f5; 6f 308 f6; 75 300 f9;
   75 301 fa; 75 302 fb; 75 308 fc; 79 301 fd; 79 308 ff; 41 304 100; 61 304 101; 41 306 102;
   61 306 103; 41 328 104; 61 328 105; 43 301 106; 63 301 107; 43 302 108; 63 302 109;
   43 307 10a; 63 307 10b; 43 30c 10c; 63 30c 10d; 44 30c 10e; 64 30c 10f; 45 304 112;
   65 304 113; 45 306 114; 65 306 115; 45 307 116; 65 307 117; 45 328 118; 65 328 119;
   45 30c 11a; 65 30c 11b; 47 302 11c; 67 302 11d; 47 306 11e; 67 306 11f; 47 307 120;
   67 307 121; 47 327 122; 67 327 123; 48 302 124; 68 302 125; 49 303 128; 69 303 129;
   49 304 12a; 69 304 12b; 49 306 12c; 69 306 12d; 49 328 12e; 69 328 12f; 49 307 130;
   4a 302 134; 6a 302 135; 4b 327 136; 6b 327 137; 4c 301 139; 6c 301 13a; 4c 327 13b;
   6c 327 13c; 4c 30c 13d; 6c 30c 13e; 4e 301 143; 6e 301 144; 4e 327 145; 6e 327 146;
   4e 30c 147; 6e 30c 148; 4f 304 14c; 6f 304 14d; 4f 306 14e; 6f 306 14f; 4f 30b 150;
   6f 30b 151; 52 301 154; 72 301 155; 52 327 156; 72 327 157; 52 30c 158; 72 30c 159;
   53 301 15a; 73 301 15b; 53 302 15c; 73 302 15d; 53 327 15e; 73 327 15f; 53 30c 160;
   73 30c 161; 54 327 162; 74 327 163; 54 30c 164; 74 30c 165; 55 303 168; 75 303 169;
   55 304 16a; 75 304 16b; 55 306 16c; 75 306 16d; 55 30a 16e; 75 30a 16f; 55 30b 170;
   75 30b 171; 55 328 172; 75 328 173; 57 302 174; 77 302 175; 59 302 176; 79 302 177;
   59 308 178; 5a 301 179; 7a 301 17a; 5a 307 17b; 7a 307 17c; 5a 30c 17d; 7a 30c 17e;
   4f 31b 1a0; 6f 31b 1a1; 55 31b 1af; 75 31b 1b0; 41 30c 1cd; 61 30c 1ce; 49 30c 1cf;
   69 30c 1d0; 4f 30c 1d1; 6f 30c 1d2; 55 30c 1d3; 75 30c 1d4; dc 304 1d5; fc 304 1d6;
   dc 301 1d7; fc 301 1d8; dc 30c 1d9; fc 30c 1da; dc 300 1db; fc 300 1dc; c4 304 1de;
   e4 304 1df; 226 304 1e0; 227 304 1e1; c6 304 1e2; e6 304 1e3; 47 30c 1e6; 67 30c 1e7;
   4b 30c 1e8; 6b 30c 1e9; 4f 328 1ea; 6f 328 1eb; 1ea 304 1ec; 1eb 304 1ed; 1b7 30c 1ee;
   292 30c 1ef; 6a 30c 1f0; 47 301 1f4; 67 301 1f5; 4e 300 1f8; 6e 300 1f9; c5 301 1fa;
   e5 301 1fb; c6 301 1fc; e6 301 1fd; d8 301 1fe; f8 301 1ff; 41 30f 200; 61 30f 201;
   41 311 202; 61 311 203; 45 30f 204; 65 30f 205; 45 311 206; 65 311 207; 49 30f 208;
   69 30f 209; 49 311 20a; 69 311 20b; 4f 30f 20c; 6f 30f 20d; 4f 311 20e; 6f 311 20f;
   52 30f 210; 72 30f 211; 52 311 212; 72 311 213; 55 30f 214; 75 30f 215; 55 311 216;
   75 311 217; 53 326 218; 73 326 219; 54 326 21a; 74 326 21b; 48 30c 21e; 68 30c 21f;
   41 307 226; 61 307 227; 45 327 228; 65 327 229; d6 304 22a; f6 304 22b; d5 304 22c;
   f5 304 22d; 4f 307 22e; 6f 307 22f; 22e 304 230; 22f 304 231; 59 304 232; 79 304 233;
   a8 301 385; 391 301 386; 395 301 388; 397 301 389; 399 301 38a; 39f 301 38c; 3a5 301 38e;
   3a9 301 38f; 3ca 301 390; 399 308 3aa; 3a5 308 3ab; 3b1 301 3ac; 3b5 301 3ad; 3b7 301 3ae;
   3b9 301 3af; 3cb 301 3b0; 3b9 308 3ca; 3c5 308 3cb; 3bf 301 3cc; 3c5 301 3cd; 3c9 301 3ce;
   3d2 301 3d3; 3d2 308 3d4; 415 300 400; 415 308 401; 413 301 403; 406 308 407; 41a 301 40c;
   418 300 40d; 423 306 40e; 418 306 419; 438 306 439; 435 300 450; 435 308 451; 433 301 453;
   456 308 457; 43a 301 45c; 438 300 45d; 443 306 45e; 474 30f 476; 475 30f 477; 416 306 4c1;
   436 306 4c2; 410 306 4d0; 430 306 4d1; 410 308 4d2; 430 308 4d3; 415 306 4d6; 435 306 4d7;
   4d8 308 4da; 4d9 308 4db; 416 308 4dc; 436 308 4dd; 417 308 4de; 437 308 4df; 418 304 4e2;
   438 304 4e3; 418 308 4e4; 438 308 4e5; 41e 308 4e6; 43e 308 4e7; 4e8 308 4ea; 4e9 308 4eb;
   42d 308 4ec; 44d 308 4ed; 423 304 4ee; 443 304 4ef; 423 308 4f0; 443 308 4f1; 423 30b 4f2;
   443 30b 4f3; 427 308 4f4; 447 308 4f5; 42b 308 4f8; 44b 308 4f9; 627 653 622; 627 654 623;
   648 654 624; 627 655 625; 64a 654 626; 6d5 654 6c0; 6c1 654 6c2; 6d2 654 6d3; 928 93c 929;
   930 93c 931; 933 93c 934; 9c7 9be 9cb; 9c7 9d7 9cc; b47 b56 b48; b47 b3e b4b; b47 b57 b4c;
   b92 bd7 b94; bc6 bbe bca; bc7 bbe bcb; bc6 bd7 bcc; c46 c56 c48; cbf cd5 cc0; cc6 cd5 cc7;
   cc6 cd6 cc8; cc6 cc2 cca; cca cd5 ccb; d46 d3e d4a; d47 d3e d4b; d46 d57 d4c; dd9 dca dda;
   dd9 dcf ddc; ddc dca ddd; dd9 ddf dde; 1025 102e 1026; 1b05 1b35 1b06; 1b07 1b35 1b08;
   1b09 1b35 1b0a; 1b0b 1b35 1b0c; 1b0d 1b35 1b0e; 1b11 1b35 1b12; 1b3a 1b35 1b3b;
   1b3c 1b35 1b3d; 1b3e 1b35 1b40; 1b3f 1b35 1b41; 1b42 1b35 1b43; 41 325 1e00; 61 325 1e01;
   42 307 1e02; 62 307 1e03; 42 323 1e04; 62 323 1e05; 42 331 1e06; 62 331 1e07; c7 301 1e08;
   e7 301 1e09; 44 307 1e0a; 64 307 1e0b; 44 323 1e0c; 64 323 1e0d; 44 331 1e0e; 64 331 1e0f;
   44 327 1e10; 64 327 1e11; 44 32d 1e12; 64 32d 1e13; 112 300 1e14; 113 300 1e15; 112 301 1e16;
   113 301 1e17; 45 32d 1e18; 65 32d 1e19; 45 330 1e1a; 65 330 1e1b; 228 306 1e1c; 229 306 1e1d;
   46 307 1e1e; 66 307 1e1f; 47 304 1e20; 67 304 1e21; 48 307 1e22; 68 307 1e23; 48 323 1e24;
   68 323 1e25; 48 308 1e26; 68 308 1e27; 48 327 1e28; 68 327 1e29; 48 32e 1e2a; 68 32e 1e2b;
   49 330 1e2c; 69 330 1e2d; cf 301 1e2e; ef 301 1e2f; 4b 301 1e30; 6b 301 1e31; 4b 323 1e32;
   6b 323 1e33; 4b 331 1e34; 6b 331 1e35; 4c 323 1e36; 6c 323 1e37; 1e36 304 1e38;
   1e37 304 1e39; 4c 331 1e3a; 6c 331 1e3b; 4c 32d 1e3c; 6c 32d 1e3d; 4d 301 1e3e; 6d 301 1e3f;
   4d 307 1e40; 6d 307 1e41; 4d 323 1e42; 6d 323 1e43; 4e 307 1e44; 6e 307 1e45; 4e 323 1e46;
   6e 323 1e47; 4e 331 1e48; 6e 331 1e49; 4e 32d 1e4a; 6e 32d 1e4b; d5 301 1e4c; f5 301 1e4d;
   d5 308 1e4e; f5 308 1e4f; 14c 300 1e50; 14d 300 1e51; 14c 301 1e52; 14d 301 1e53;
   50 301 1e54; 70 301 1e55; 50 307 1e56; 70 307 1e57; 52 307 1e58; 72 307 1e59; 52 323 1e5a;
   72 323 1e5b; 1e5a 304 1e5c; 1e5b 304 1e5d; 52 331 1e5e; 72 331 1e5f; 53 307 1e60;
   73 307 1e61; 53 323 1e62; 73 323 1e63; 15a 307 1e64; 15b 307 1e65; 160 307 1e66;
   161 307 1e67; 1e62 307 1e68; 1e63 307 1e69; 54 307 1e6a; 74 307 1e6b; 54 323 1e6c;
   74 323 1e6d; 54 331 1e6e; 74 331 1e6f; 54 32d 1e70; 74 32d 1e71; 55 324 1e72; 75 324 1e73;
   55 330 1e74; 75 330 1e75; 55 32d 1e76; 75 32d 1e77; 168 301 1e78; 169 301 1e79; 16a 308 1e7a;
   16b 308 1e7b; 56 303 1e7c; 76 303 1e7d; 56 323 1e7e; 76 323 1e7f; 57 300 1e80; 77 300 1e81;
   57 301 1e82; 77 301 1e83; 57 308 1e84; 77 308 1e85; 57 307 1e86; 77 307 1e87; 57 323 1e88;
   77 323 1e89; 58 307 1e8a; 78 307 1e8b; 58 308 1e8c; 78 308 1e8d; 59 307 1e8e; 79 307 1e8f;
   5a 302 1e90; 7a 302 1e91; 5a 323 1e92; 7a 323 1e93; 5a 331 1e94; 7a 331 1e95; 68 331 1e96;
   74 308 1e97; 77 30a 1e98; 79 30a 1e99; 17f 307 1e9b; 41 323 1ea0; 61 323 1ea1; 41 309 1ea2;
   61 309 1ea3; c2 301 1ea4; e2 301 1ea5; c2 300 1ea6; e2 300 1ea7; c2 309 1ea8; e2 309 1ea9;
   c2 303 1eaa; e2 303 1eab; 1ea0 302 1eac; 1ea1 302 1ead; 102 301 1eae; 103 301 1eaf;
   102 300 1eb0; 103 300 1eb1; 102 309 1eb2; 103 309 1eb3; 102 303 1eb4; 103 303 1eb5;
   1ea0 306 1eb6; 1ea1 306 1eb7; 45 323 1eb8; 65 323 1eb9; 45 309 1eba; 65 309 1ebb;
   45 303 1ebc; 65 303 1ebd; ca 301 1ebe; ea 301 1ebf; ca 300 1ec0; ea 300 1ec1; ca 309 1ec2;
   ea 309 1ec3; ca 303 1ec4; ea 303 1ec5; 1eb8 302 1ec6; 1eb9 302 1ec7; 49 309 1ec8;
   69 309 1ec9; 49 323 1eca; 69 323 1ecb; 4f 323 1ecc; 6f 323 1ecd; 4f 309 1ece; 6f 309 1ecf;
   d4 301 1ed0; f4 301 1ed1; d4 300 1ed2; f4 300 1ed3; d4 309 1ed4; f4 309 1ed5; d4 303 1ed6;
   f4 303 1ed7; 1ecc 302 1ed8; 1ecd 302 1ed9; 1a0 301 1eda; 1a1 301 1edb; 1a0 300 1edc;
   1a1 300 1edd; 1a0 309 1ede; 1a1 309 1edf; 1a0 303 1ee0; 1a1 303 1ee1; 1a0 323 1ee2;
   1a1 323 1ee3; 55 323 1ee4; 75 323 1ee5; 55 309 1ee6; 75 309 1ee7; 1af 301 1ee8; 1b0 301 1ee9;
   1af 300 1eea; 1b0 300 1eeb; 1af 309 1eec; 1b0 309 1eed; 1af 303 1eee; 1b0 303 1eef;
   1af 323 1ef0; 1b0 323 1ef1; 59 300 1ef2; 79 300 1ef3; 59 323 1ef4; 79 323 1ef5; 59 309 1ef6;
   79 309 1ef7; 59 303 1ef8; 79 303 1ef9; 3b1 313 1f00; 3b1 314 1f01; 1f00 300 1f02;
   1f01 300 1f03; 1f00 301 1f04; 1f01 301 1f05; 1f00 342 1f06; 1f01 342 1f07; 391 313 1f08;
   391 314 1f09; 1f08 300 1f0a; 1f09 300 1f0b; 1f08 301 1f0c; 1f09 301 1f0d; 1f08 342 1f0e;
   1f09 342 1f0f; 3b5 313 1f10; 3b5 314 1f11; 1f10 300 1f12; 1f11 300 1f13; 1f10 301 1f14;
   1f11 301 1f15; 395 313 1f18; 395 314 1f19; 1f18 300 1f1a; 1f19 300 1f1b; 1f18 301 1f1c;
   1f19 301 1f1d; 3b7 313 1f20; 3b7 314 1f21; 1f20 300 1f22; 1f21 300 1f23; 1f20 301 1f24;
   1f21 301 1f25; 1f20 342 1f26; 1f21 342 1f27; 397 313 1f28; 397 314 1f29; 1f28 300 1f2a;
   1f29 300 1f2b; 1f28 301 1f2c; 1f29 301 1f2d; 1f28 342 1f2e; 1f29 342 1f2f; 3b9 313 1f30;
   3b9 314 1f31; 1f30 300 1f32; 1f31 300 1f33; 1f30 301 1f34; 1f31 301 1f35; 1f30 342 1f36;
   1f31 342 1f37; 399 313 1f38; 399 314 1f39; 1f38 300 1f3a; 1f39 300 1f3b; 1f38 301 1f3c;
   1f39 301 1f3d; 1f38 342 1f3e; 1f39 342 1f3f; 3bf 313 1f40; 3bf 314 1f41; 1f40 300 1f42;
   1f41 300 1f43; 1f40 301 1f44; 1f41 301 1f45; 39f 313 1f48; 39f 314 1f49; 1f48 300 1f4a;
   1f49 300 1f4b; 1f48 301 1f4c; 1f49 301 1f4d; 3c5 313 1f50; 3c5 314 1f51; 1f50 300 1f52;
   1f51 300 1f53; 1f50 301 1f54; 1f51 301 1f55; 1f50 342 1f56; 1f51 342 1f57; 3a5 314 1f59;
   1f59 300 1f5b; 1f59 301 1f5d; 1f59 342 1f5f; 3c9 313 1f60; 3c9 314 1f61; 1f60 300 1f62;
   1f61 300 1f63; 1f60 301 1f64; 1f61 301 1f65; 1f60 342 1f66; 1f61 342 1f67; 3a9 313 1f68;
   3a9 314 1f69; 1f68 300 1f6a; 1f69 300 1f6b; 1f68 301 1f6c; 1f69 301 1f6d; 1f68 342 1f6e;
   1f69 342 1f6f; 3b1 300 1f70; 3b5 300 1f72; 3b7 300 1f74; 3b9 300 1f76; 3bf 300 1f78;
   3c5 300 1f7a; 3c9 300 1f7c; 1f00 345 1f80; 1f01 345 1f81; 1f02 345 1f82; 1f03 345 1f83;
   1f04 345 1f84; 1f05 345 1f85; 1f06 345 1f86; 1f07 345 1f87; 1f08 345 1f88; 1f09 345 1f89;
   1f0a 345 1f8a; 1f0b 345 1f8b; 1f0c 345 1f8c; 1f0d 345 1f8d; 1f0e 345 1f8e; 1f0f 345 1f8f;
   1f20 345 1f90; 1f21 345 1f91; 1f22 345 1f92; 1f23 345 1f93; 1f24 345 1f94; 1f25 345 1f95;
   1f26 345 1f96; 1f27 345 1f97; 1f28 345 1f98; 1f29 345 1f99; 1f2a 345 1f9a; 1f2b 345 1f9b;
   1f2c 345 1f9c; 1f2d 345 1f9d; 1f2e 345 1f9e; 1f2f 345 1f9f; 1f60 345 1fa0; 1f61 345 1fa1;
   1f62 345 1fa2; 1f63 345 1fa3; 1f64 345 1fa4; 1f65 345 1fa5; 1f66 345 1fa6; 1f67 345 1fa7;
   1f68 345 1fa8; 1f69 345 1fa9; 1f6a 345 1faa; 1f6b 345 1fab; 1f6c 345 1fac; 1f6d 345 1fad;
   1f6e 345 1fae; 1f6f 345 1faf; 3b1 306 1fb0; 3b1 304 1fb1; 1f70 345 1fb2; 3b1 345 1fb3;
   3ac 345 1fb4; 3b1 342 1fb6; 1fb6 345 1fb7; 391 306 1fb8; 391 304 1fb9; 391 300 1fba;
   391 345 1fbc; a8 342 1fc1; 1f74 345 1fc2; 3b7 345 1fc3; 3ae 345 1fc4; 3b7 342 1fc6;
   1fc6 345 1fc7; 395 300 1fc8; 397 300 1fca; 397 345 1fcc; 1fbf 300 1fcd; 1fbf 301 1fce;
   1fbf 342 1fcf; 3b9 306 1fd0; 3b9 304 1fd1; 3ca 300 1fd2; 3b9 342 1fd6; 3ca 342 1fd7;
   399 306 1fd8; 399 304 1fd9; 399 300 1fda; 1ffe 300 1fdd; 1ffe 301 1fde; 1ffe 342 1fdf;
   3c5 306 1fe0; 3c5 304 1fe1; 3cb 300 1fe2; 3c1 313 1fe4; 3c1 314 1fe5; 3c5 342 1fe6;
   3cb 342 1fe7; 3a5 306 1fe8; 3a5 304 1fe9; 3a5 300 1fea; 3a1 314 1fec; a8 300 1fed;
   1f7c 345 1ff2; 3c9 345 1ff3; 3ce 345 1ff4; 3c9 342 1ff6; 1ff6 345 1ff7; 39f 300 1ff8;
   3a9 300 1ffa; 3a9 345 1ffc; 2190 338 219a; 2192 338 219b; 2194 338 21ae; 21d0 338 21cd;
   21d4 338 21ce; 21d2 338 21cf; 2203 338 2204; 2208 338 2209; 220b 338 220c; 2223 338 2224;
   2225 338 2226; 223c 338 2241; 2243 338 2244; 2245 338 2247; 2248 338 2249; 3d 338 2260;
   2261 338 2262; 224d 338 226d; 3c 338 226e; 3e 338 226f; 2264 338 2270; 2265 338 2271;
   2272 338 2274; 2273 338 2275; 2276 338 2278; 2277 338 2279; 227a 338 2280; 227b 338 2281;
   2282 338 2284; 2283 338 2285; 2286 338 2288; 2287 338 2289; 22a2 338 22ac; 22a8 338 22ad;
   22a9 338 22ae; 22ab 338 22af; 227c 338 22e0; 227d 338 22e1; 2291 338 22e2; 2292 338 22e3;
   22b2 338 22ea; 22b3 338 22eb; 22b4 338 22ec; 22b5 338 22ed; 304b 3099 304c; 304d 3099 304e;
   304f 3099 3050; 3051 3099 3052; 3053 3099 3054; 3055 3099 3056; 3057 3099 3058;
   3059 3099 305a; 305b 3099 305c; 305d 3099 305e; 305f 3099 3060; 3061 3099 3062;
   3064 3099 3065; 3066 3099 3067; 3068 3099 3069; 306f 3099 3070; 306f 309a 3071;
   3072 3099 3073; 3072 309a 3074; 3075 3099 3076; 3075 309a 3077; 3078 3099 3079;
   3078 309a 307a; 307b 3099 307c; 307b 309a 307d; 3046 3099 3094; 309d 3099 309e;
   30ab 3099 30ac; 30ad 3099 30ae; 30af 3099 30b0; 30b1 3099 30b2; 30b3 3099 30b4;
   30b5 3099 30b6; 30b7 3099 30b8; 30b9 3099 30ba; 30bb 3099 30bc; 30bd 3099 30be;
   30bf 3099 30c0; 30c1 3099 30c2; 30c4 3099 30c5; 30c6 3099 30c7; 30c8 3099 30c9;
   30cf 3099 30d0; 30cf 309a 30d1; 30d2 3099 30d3; 30d2 309a 30d4; 30d5 3099 30d6;
   30d5 309a 30d7; 30d8 3099 30d9; 30d8 309a 30da; 30db 3099 30dc; 30db 309a 30dd;
   30a6 3099 30f4; 30ef 3099 30f7; 30f0 3099 30f8; 30f1 3099 30f9; 30f2 3099 30fa;
   30fd 3099 30fe; 105d2 307 105c9; 105da 307 105e4; 11099 110ba 1109a; 1109b 110ba 1109c;
   110a5 110ba 110ab; 11131 11127 1112e; 11132 11127 1112f; 11347 1133e 1134b;
   11347 11357 1134c; 11382 113c9 11383; 11384 113bb 11385; 1138b 113c2 1138e;
   11390 113c9 11391; 113c2 113c2 113c5; 113c2 113b8 113c7; 113c2 113c9 113c8;
   114b9 114ba 114bb; 114b9 114b0 114bc; 114b9 114bd 114be; 115b8 115af 115ba;
   115b9 115af 115bb; 11935 11930 11938; 1611e 1611e 16121; 1611e 16129 16122;
   1611e 1611f 16123; 16129 1611f 16124; 1611e 16120 16125; 16121 1611f 16126;
   16122 1611f 16127; 16121 16120 16128; 16d67 16d67 16d68; 16d63 16d67 16d69; 16d69 16d67 16d6a"

end LogSieve.Unicode
