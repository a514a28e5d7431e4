import ProofOfExistence.Text.CodeRun

/-! # The order of accents

Accents have no place among the letters; they tell names apart whose letters agree.  Some code
points count for nothing at all: controls, joiners, and marks of direction. -/

namespace ProofOfExistence.Collation

/-- The accents in rising order; commas part the ranks, and accents of one rank are alike.  The last
eight, beyond all code points, are not written: they mark variants of letters, as in ligatures. -/
def accentTable : String :=
  "332, 313 486 2cf1, 314 485 2cf0, 301 954, 300 953, 306, 302, 30c, 30a, 342, 308, 30b, 303, 307,
  338, 327, 328, 304, 30d-30e 312 315 31a 33d-33f 346 34a-34c 350-352 357 35b 35d-35e 484 487 741
  745 897 b55 17cb-17d1 17dd 1ab0-1ab4 1abb-1abc 1ac1-1ac2 1ac5-1ac9 1acb 1acf-1adc 1ae0-1aeb
  1dc0-1dc1 1dc3-1dc9 1dcb-1dce 1dd1 1df5-1df8 1dfb 1dfe 20f0 2cef a67c-a67d 10ae5 10d24-10d27
  10d6b 10f48-10f4a 10f4c 10f82 10f84 1bc9d 1e2ae 1e4ec-1e4ed 1e4ef 1e5ee-1e5ef, 316-319 31c-320
  329-32c 32f 333 33a-33c 347-349 34d-34e 353-356 359-35a 35c 35f 362 742 746 7fd 859-85b
  1ab5-1aba 1abd 1ac3-1ac4 1aca 1add 1dc2 1dcf-1dd0 1df9-1dfa 1dfc-1dfd 1dff 20ec-20ef fe27 10a0d
  10ae6 10f46-10f47 10f4b 10f4d-10f50 10f83 10f85 1e4ee, 336-337 20d8-20da 20e5 20ea-20eb 1bc9e,
  1abe 20dd-20e0 20e2-20e4 10efc, 3099, 309a, 335, 305, 309, 30f, 310, 311, 31b, 321, 322, 323,
  324, 325, 326, 32d, 32e, 330, 331, 334, 339, 345, 358, 360 fe22 fe29, 361 fe20, 483 fe2e, a66f,
  5b0, 5b1, 5b2, 5b3, 5b4, 5b5, 5b6, 5b7, 5b8 5c7, 5b9-5ba, 5bb, 5c2, 5c1, 5bc, 5bf, fb1e,
  81c-81d, 81e-820, 821-823, 824-825, 826-827, 828-82a, 82b, 82c, 818, 819, 82d, 64b, 8f0, 8e7,
  64c, 8f1, 8e8, 64d, 8f2, 8e9, 64e, 8e4, 8f4, 8f5, 64f, 8e5, 8fe, 650, 8e6, 8f6, 651 afb 11237,
  652 afa 1123e, 653 89c 89e-89f afc 10eac, 654 10eab, 655, 65f, 656, 657, 658, 8ff, 659, 65a,
  65b, 65c, 65d, 65e, 8e3, 8f7, 8f8, 8fd, 8fb, 8fc, 8f9, 8fa, 670 89d, 711, 730, 731, 732, 733,
  734, 735, 736, 737, 738, 739, 73a, 73b, 73c, 73d, 73e, 73f, 7eb, 7ec, 7ed, 7ee, 7ef, 7f0, 7f1,
  7f2, 7f3, 135f, 135e, 135d, a6f0, a6f1, 16af0, 16af1, 16af2, 16af3, 16af4, 1e944-1e946, 1e94a,
  1e947, 1e948, 1e949, 93c 9bc a3c abc afd-aff b3c c3c cbc 1b34 1be6 1c37 a9b3 10d6c 110ba 11173
  111ca 11236 112e9 1133b-1133c 11446 114c3 115c0 116b7 1183a 11943 11a33 11d42, 900-901 981 a01
  a81 b01 c00-c01 c81 d01 d81 f82-f83 1b00-1b01 a8c5 a980 11000 11080 11100 11180 111cf 11301
  113ca 11443 114bf 115bc 11640 1193c 11a35-11a37 11c3c 11cb6 11d43 11f00, 902 982 a02 a82 b02 b82
  c02 c04 c82 cf3 d00 d02 d82 f7e 1036 17c6 1a74 1b02 1b80 1ced a80b a880 a981 10a0e 10d6d 11001
  11081 11101 11181 11234 112df 11300 11302 113cc 11444 114c0 115bd 1163d 116ab 11837 1193b 119de
  11a38 11a96 11c3d 11cb5 11d40 11d95 11f01 1612d, 903 983 a03 a83 b03 c03 c83 d03 d83 f7f 1038
  17c7 1b04 1b82 1cf2-1cf3 a881 a983 10a0f 11002 11082 11102 11182 11303 113cd 11445 114c1 115be
  1163e 116ac 11838 119df 11a39 11a97 11c3e 11d41 11d96 11f03, 9fe 111c9 1145e, a70, a71, 1b03,
  a982, 1b81, abec, 10a38, 10a39, 10a3a, 111cb, 111cc, 10d6a 113d2 11a98, e4e, e47, e48, e49, e4a,
  e4b, e4c, e4d, ece, ec8, ec9, eca, ecb, ecc, ecd, aabf, aac1, f39, a92b, a92c, a92d, 1037, 17c8,
  17c9, 17ca, 1a75, 1a76, 1a77, 1a78, 1a79, 1a7a, 1a7b, 1a7c, 1939, 193a, 193b, 16b30 1e131, 16b31
  1e136, 16b32 1e132, 16b33 1e133, 16b34 1e130, 16b35 1e134, 16b36 1e135, 1e2ec, 1e2ed, 1e2ee,
  1e2ef, 302a, 302b, 302c, 302d, 302e, 302f, 16ff0, 16ff1, 20d0, 20d1, 20d2-20d3, 20d4, 20d5,
  20d6, 20d7, 20db, 20dc, 20e1, 20e6, 20e7, 20e8, 20e9, 101fd, 110000, 110001, 110002, 110003,
  110004, 110005, 110006, 110007"

/-- The accents in rising order, those of one rank together. -/
def accents : List (List CodeRun) :=
  (accentTable.splitOn ",").map CodeRun.listOfText

/-- The rank of an accent. -/
def accentRank? (code : Nat) : Option Nat := accents.findIdx? (·.any (·.contains code))

/-- The code points that count for nothing. -/
def ignoredTable : String :=
  "0-8 e-1f 7f-84 86-9f ad 34f 488-489 591-5af 5bd 5c4-5c5 600-605 610-61a 61c 640 6d6-6dd 6df-6e4
  6e7-6e8 6ea-6ed 70f 740 743-744 747-74a 7fa 890-891 898-89b 8ca-8e2 8ea-8ef 8f3 951-952 f18-f19
  f35 f37 f3e-f3f f86-f87 fc6 17b4-17b5 17d3 180a-180f 1a7f 1b6b-1b73 1cd0-1ce8 1cf4 1cf7-1cf9
  200b-200f 202a-202e 2060-2064 2066-206f 2d7f a670-a672 a8e0-a8f1 fe00-fe0f fe21 fe23-fe26 fe28
  fe2a-fe2d fe2f fe73 feff fff9-fffb 102e0 10efa-10efb 10efd-10eff 110bd 110cd 11366-1136c
  11370-11374 113e1-113e2 13430-13440 13447-13455 16fe4 1bca0-1bca3 1cf00-1cf2d 1cf30-1cf46
  1d165-1d169 1d16d-1d182 1d185-1d18b 1d1aa-1d1ad 1d242-1d244 1da00-1da36 1da3b-1da6c 1da75 1da84
  1da9b-1da9f 1daa1-1daaf 1e8d0-1e8d6 e0001 e0020-e007f e0100-e01ef"

/-- The runs of code points that count for nothing. -/
def ignored : List CodeRun := CodeRun.listOfText ignoredTable

/-- Whether a code point counts for nothing. -/
def isIgnored (code : Nat) : Bool := ignored.any (·.contains code)

end ProofOfExistence.Collation
