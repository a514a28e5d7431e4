/-! # How many ideographs there are

How many ideographs a block has under each radical, by the strokes beside it.  Commas part the
radicals, of which there are 214.  A row begins with the ideographs that have no strokes beside the
radical; after a slash come those of the radical's simplified form.  The counts of the extensions
are near the true ones. -/

namespace ProofOfExistence.Collation

/-- The ideographs of the common block. -/
def commonIdeographTable : String :=
  "1 6 6 7 10 5 3 2, 1 1 2 5 1 0 1 1 1 1, 1 1 1 2 2 0 1 0 1, 3 3 6 2 4 4 1 1 1 1, 3 2 4 5 1 9 2 6
  4 1 3 1 3, 1 1 1 1 0 1 1 1, 1 4 6 1 3 2 3, 1 1 2 0 4 3 2 6 1 0 2 2 0 0 1 0 0 0 0 0 1, 2 4 20 26
  63 60 69 64 82 64 42 36 39 27 15 14 6 3 1 4 2 1 1, 1 1 3 2 5 7 5 3 2 3 2 1 1 0 1 0 0 0 0 1, 1 1
  1 0 1 0 1 1, 1 0 4 1 4 1 3 3 1 1 0 2 0 0 1 0 1, 1 0 6 4 2 1 1 2 2 1, 1 0 2 2 2 1 1 2 7 1 0 0 1 0
  1, 1 0 0 4 5 7 5 3 11 3 5 1 1 4 2 1, 1 3 1 3 4 1 3 0 0 1 2 0 2, 1 0 1 5 1 0 1 1 0 0 1, 3 2 4 5
  14 18 21 15 22 10 5 9 5 11 5 1 0 1 0 2 0 2, 1 1 2 4 6 12 11 12 6 9 4 9 6 5 1 3 0 2, 1 1 8 5 1 1
  3 1 1 2 3 0 0 1, 1 0 1 1 0 0 0 0 0 2, 1 0 0 4 4 3 1 3 2 3 0 1 3 1 1 1 0 1 1, 1 0 2 0 0 1 1 1 0
  3, 1 3 4 4 4 0 6 2 0 1 1 0 0 0 0 0 0 0 0 1, 1 0 2 4 0 2 3 0 0 1, 1 2 1 3 2 4 5 3 2 0 0 2, 1 0 4
  3 4 4 4 6 4 4 6 2 5 2 0 1 0 1 0 0 0 0 0 0 0 0 0 0 1, 1 0 3 3 2 1 3 0 0 2 1 0 1 1, 1 1 5 3 1 1 5
  5 2 0 0 1 0 0 1 0 1, 1 0 27 25 69 65 66 72 82 69 55 51 53 31 23 17 12 9 11 10 2 3 2 0 0 1, 1 0 5
  7 18 9 2 6 5 5 5 4 1 2 0 0 0 0 0 1 0 0 0 1, 1 2 6 19 38 42 43 38 58 51 41 42 30 19 11 2 9 3 1 0
  2 1 1, 1 1 1 1 5 0 2 1 2 3 1 2 2 1, 1 1 1 1 1 1 2, 1 0 0 0 1 1 1 2 0 0 0 1 0 0 0 3 0 0 1, 1 0 3
  3 0 2 0 1 2 1 0 4 1, 2 5 7 8 6 11 9 4 5 6 3 4 1 2 0 1 0 0 0 1 1, 1 0 3 18 35 44 49 44 66 57 37
  31 28 19 21 5 3 7 3 3 1 2, 4 1 1 4 5 9 3 3 5 1 3 1 0 2 2 0 1 2 0 1, 1 0 4 5 9 15 10 19 11 12 8
  11 6 2 2 0 3 1 1, 1 0 1 3 3 1 2 4 3 3 0 1 1, 1 2 4 3 0 2 3 0 0 1 2 1, 3 0 3 5 1 2 0 0 2 3 0 1 0
  2, 1 2 2 1 6 7 5 9 5 4 0 2 4 0 1 2 1 0 1 0 0 1, 1 1 0 1, 1 1 5 12 25 41 34 30 43 45 25 24 23 17
  9 3 3 7 4 7 3, 3 0 0 2 2 0 0 0 2 0 0 0 1, 1 0 3 2 1 0 2 1 0 1 1, 3 1 0 0 1 1 5 1 0 1, 1 3 4 3 8
  12 11 10 13 11 7 11 10 4 3 3 1 1, 1 0 1 3 0 2 0 0 0 0 1, 1 1 1 0 0 0 1 0 0 1, 1 0 4 3 14 11 7 10
  14 6 8 13 11 6 0 1 2 3 1 1 0 0 1, 1 0 0 1 2 2 3 1, 1 2 1 1 3 1 2 1 0 0 0 1, 1 1 1 3 0 0 0 0 0 1
  1, 1 3 2 4 4 10 5 4 6 5 4 4 3 2 1 1 0 0 0 1 1, 2 0 1 1 0 2 1 0 1 1 2 0 0 2 0 2 1 0 0 0 0 0 0 1,
  1 0 0 0 3 0 2 2 4 1 1 2 1 0 0 0 0 0 0 1, 1 0 0 2 6 9 9 8 15 7 5 6 4 2 2 0 1 2 1, 2 3 4 17 49 51
  62 51 65 53 45 53 43 32 23 12 4 3 1 5 0 2 0 0 1, 1 3 5 3 4 1 1 4 2 7 6 3 2 3 0 0 0 0 1, 3 1 0 3
  4 3 4 1 2, 4 8 22 18 80 35 64 90 57 102 61 83 15 27 27 17 10 3 5 9 2 1, 1 0 1 0 0 1 0 0 1 0 0 0
  1, 2 0 2 5 2 7 7 17 13 6 3 8 4 4 0 1 2, 1 0 0 1 1 0 2 4 2 1 0 0 1 0 1 0 0 1 0 1, 1 0 0 1 0 0 2 2
  2 1 2 0 1 1, 1 1 0 0 4 2 0 2 4 0 1 1 1 2 1 0 0 0 0 0 0 1, 1 0 0 0 3 4 6 9 2 4 2 0 2 1 1 3 1, 2 0
  0 0 0 1 0 1 0 1, 1 2 8 9 33 38 23 19 26 22 15 15 24 11 2 6 6 1 0 3 2 1, 1 1 2 2 1 1 4 2 5 1 2 0
  1 0 0 0 0 1, 1 0 1 0 4 4 6 4 4 2 1 0 3 0 1 0 1, 2 7 19 38 68 100 89 88 108 94 85 80 75 46 32 29
  15 15 9 4 3 8 0 0 2, 1 0 2 2 3 3 7 7 7 9 5 6 7 3 2 1 0 0 1, 1 1 1 1 4 2 2 0 2 4 1 2 1 0 1, 1 1 1
  1 5 6 4 8 7 2 5 5 5 3 1 2 0 1, 1 0 0 0 1 2 1 4 3 4 2 2 2 0 1 0 0 0 0 1, 2 1 1 2 1 1 0 0 0 1, 1 0
  1 0 0 3 1 0 0 0 0 0 0 1, 1 0 0 2 2 2 9 4 8 7 1 4 5 3 1 1 0 0 1 0 0 0 1, 1 2 1 0 1, 1 1 3 2 3 5 7
  2 5 1 2, 8 6 42 43 89 158 110 112 96 52 94 34 115 34 21 25 11 0 15 5 2 1 4 0 0 0 1 1, 2 1 6 13
  30 37 43 42 40 58 31 28 41 25 12 11 10 5 3 2 1 3 0 0 1 1 0 0 0 1, 2 0 0 0 2 3 1 0 1 0 1 1 0 1, 1
  0 1 0 1 0 1 0 0 1, 1 0 0 0 0 1 0 1 0 0 1, 1 0 0 0 1 1 1 0 0 1 1 1 0 1, 1 0 0 0 1 2 0 0 3 5 2 3 0
  0 0 1, 1 0 0 0 0 0 0 0 1, 2 0 3 5 8 9 5 7 10 6 6 4 4 1 0 6 2 0 1 0 0 1 0 1, 2 3 5 10 10 41 12 7
  40 21 8 24 11 7 3 3 3 1 2 3, 1 0 0 0 1 1 2, 5 4 10 22 8 57 33 10 66 9 22 24 16 16 21 7 2 5 1 1,
  1 0 0 1 0 2 1 0 1 0 0 1 0 0 1 0 0 1 0 1, 1 0 1 2 9 3 3 4 5 5 3 5 4 3 1 0 1, 1 0 0 1 1 0 2 0 2, 1
  0 0 0 1 1 2 3 0 1, 2 1 2 0 2 0 0 1, 6 1 6 9 14 13 9 11 6 3 2 3 2 1 2 2 0 1, 1 0 0 1 0 1 0 2 0 2,
  1 0 5 10 14 26 13 21 27 18 19 20 15 16 6 2 5 3 2 2 0 1 0 1 0 1, 1 0 0 1 3 0 0 2, 1 2 4 1 4 5 4 5
  3 0 5 3 4 3 1 2 1 1, 1 0 0 1 0 2 1 2 1 4 1 1 1 1 0 1, 1 0 2 1 6 9 7 4 3 4 1 3 3 2 0 1, 1 0 1 6
  24 31 21 16 28 25 13 18 18 11 8 5 4 0 1 3 2 1, 1 0 0 0 1 1 0 2 1 0 0 0 0 0 0 0 0 0 0 0 1, 1 0 1
  2 3 1 2 2 1 0 0 0 2 0 1 1, 1 0 3 11 27 37 26 28 37 29 32 21 23 17 11 11 8 1 2 1 1, 2 1 1 6 11 18
  5 19 14 19 10 3 5 4 2 1 0 2 1 2, 1 0 0 0 2 0 1 1 1, 1 0 5 7 13 25 14 16 23 16 14 16 11 5 8 4 0 2
  0 2, 1 1 2 4 8 11 7 8 10 6 7 9 5 3 1 1 2 1, 1 0 2 2 8 7 3 6 4 5 0 1 3 1 0 2 0 1, 1 0 2 8 18 41
  31 35 43 40 28 41 26 16 13 7 11 7 2 4 2 0 0 0 1 0 1, 1 0 3 12 15 12 16 8 12 13 10 10 6 5 3 2 2 1
  0 1 0 1, 2 2 4 10 30 37 43 36 58 50 33 37 26 19 9 13 2 4 1 4 0 2 0 1 / 1 0 1 11 19 18 15 9 25 23
  12 7 4 5 0 0 1, 1 0 1 1 4 1 3 0 2 0 1 3 3 2 1 1 2 0 1, 3 0 4 3 8 1 3 8 6 4 4 3 3 4 0 0 1 0 2, 1
  0 2 5 8 6 3 8 1 5 2 0 3 4 1 2, 1 0 0 2 7 12 8 3 8 8 4 5 6 2 2, 3 0 0 0 3 3 2, 1 0 0 5, 1 0 1 1 5
  6 1 2 3 2 3 2 2 0 1 1 2, 1 1 1 2 11 11 7 4 11 8 3 6 3 1 4 0 2, 2 0 0 0 3 0 0 3 2, 1 1 5 17 33 43
  40 36 34 36 19 20 20 19 7 5 4 1 2 3, 1 0 2 0 0 0 1 0 1 0 0 2, 1 1 0 0 2 0 3 0 0 1 1, 1 0 0 1 0 0
  5 0 1 0 1, 1 0 2 1 2 1 2 1 2 0 2 0 1 1, 1 0 3 0 1 1 1 0 3 2 1 0 1 1, 1 0 0 0 0 0 1 1 1, 1 0 1 4
  13 10 4 10 4 7 5 4 3 5 4 1 1 1 1, 1 1 1 0 0 0 0 0 0 0 0 1, 1 0 0 0 1 1 1 0 0 0 0 0 0 1 0 0 0 0
  1, 2 1 8 21 56 56 81 101 27 183 80 94 25 82 40 29 39 29 6 11 3 5 0 1 1, 1 0 2 1 4 6 3 2 2 1 4 2
  1 0 0 0 0 0 0 0 1, 1 1 6 17 41 35 37 35 52 55 39 41 35 26 10 11 8 8 6 1 1 3, 1 0 0 2 2 1 4 0 0 0
  0 0 0 0 0 1 0 0 1, 1 0 0 2 1 5 3 2 0 4 4 0 0 0 0 0 0 0 1, 2 0 1 7 27 41 25 24 4 56 21 19 16 13 6
  6 4 2 3 5 0 1, 3 0 0 1 0 1 2 1 0 0 0 0 1 2 0 0 0 1 0 1, 1 0 1 2 8 4 2 5 4 5 5 4 5 3 2 2 0 0 1 /
  1 0 1 1 2 4 1 1 2 1 1 2, 1 0 2 0 5 5 9 4 5 1 2 1 2 3 1 2 2 0 1, 2 0 7 18 25 45 42 36 45 40 31 28
  30 22 11 9 10 6 3 2 3 0 1 / 1 0 5 12 15 18 23 13 20 20 9 5 6 3 0 0 0 1, 1 0 0 1 3 0 1 1 1 0 3 1
  1 0 0 1 1, 1 0 0 2 1 0 2 0 3 0 1 1 0 1 0 0 0 0 1 0 1 1, 1 1 0 1 6 4 5 4 2 2 5 2 2, 1 0 0 3 2 6 7
  3 2 4 3 3 1 0 0 0 0 0 1 0 1, 1 0 3 4 10 19 13 10 21 8 8 8 7 3 5 4 2 1 1 / 1 0 3 2 13 12 11 4 11
  2 4 1 4 2 0 0 0 1, 1 0 0 0 3 0 3 1 2 1 1, 2 0 4 3 7 12 9 6 10 3 1 1 4 1 2 0 1 0 0 1, 1 0 1 4 12
  26 29 19 33 22 14 22 23 9 6 8 5 4 5 2 3, 1 0 0 1 3 1 2 3 7 2 0 3 4 1 1 0 0 1 0 0 1, 1 1 2 8 14
  26 15 9 23 16 9 7 8 6 5 3 2 0 0 0 1 / 1 1 1 3 5 11 8 3 8 6 3 1 2, 1 0 0 0 0 2 3 3 1 6 1 1 1 1 1,
  1 0 0 1 0 0 1 0 1 0 0 0 1, 2 1 6 12 22 20 23 29 20 28 14 12 11 10 3 3 1 1 0 2, 1 0 2 10 15 15 22
  22 17 18 13 14 13 5 2 5 2 3 3 2, 1 0 2 7 12 7 12 14 13 11 13 8 5 7 3 0 1 6 0 2 1, 1 1 0 0 1 2 0
  0 0 0 0 0 0 1, 1 0 1 0 1 1 0 0 0 0 0 1, 2 2 14 26 48 72 61 69 82 63 56 51 54 25 19 19 5 7 7 4 4
  2 / 1 2 5 11 24 31 41 30 28 20 16 11 11 6 1 2 0 2, 2 0 0 2 1 0 0 1 0 0 0 1 0 0 1 / 1, 1 2 3 5 13
  9 10 10 14 13 9 5 4 5 1 / 1 1 1 5 8 2 9 4 10 5 4 1 0 1, 2 0 2 5 18 19 12 20 8 29 10 9 4 6 7 1 1
  1, 1 0 0 0 0 0 0 0 1 1, 1 0 5 2 8 7 3 1 2 1 12 1 0 1 0 0 2 0 0 0 1, 1 0 0 3 8 11 3 9 13 10 4 8 7
  7 5 1 7 1 1 4 0 1 0 0 0 0 0 0 0 0 0 1, 2 0 0 0 2 2 3 1 2 0 1, 1 0 0 0 1 0 0 1 0 0 0 1, 2 0 0 0 0
  1 1 1 0 0 0 0 1 0 1, 1 0 1 7 8 13 12 7 8 15 7 4 4 4 2 3 0 1 0 0 0 1, 1 0 0 1 0 2 3 1 3 5 5 1 2 1
  0 2 / 1 0 0 1 0 1 0 0 1 2 1, 1 0 0 0 1 0 1 1 1 0 1, 1 0 0 0 2 2 0 1 0 2 2 3 0 0 1, 1 0 3 4 11 7
  18 17 13 11 9 5 5 3 4 1 2 0 2 / 1 0 2 4 9 4 7 7 1 6 4 0 2 1 1 1 0 1, 1 0 0 2 2 5 2 2 2 3 6 4 6 1
  0 0 0 0 2 / 1 0 0 1 0 3 0 0 1 1 3 1 2, 1 0 0 0 0 0 0 0 0 0 0 0 1 0 0 0 0 0 1 / 1, 2 0 6 5 12 16
  8 21 17 13 7 5 5 8 1 1 2 0 2 0 0 1 / 1 0 2 2 7 6 8 6 4 5 5 2 2 0 0 0 0 0 0 0 0 0 1, 1 0 1 0 0 0
  0 0 1, 1 0 0 0 1 3 0 3 3 2 2 1 1 0 1 0 0 0 1, 1 0 2 7 18 25 18 17 16 21 16 15 14 7 3 0 6 2 2 1 1
  / 1 0 1 3 4 12 9 6 7 5 4 3 1 0 1 0 1 2, 1 0 1 5 3 6 5 3 2 4 7 3 3 2 1 1 1, 1 1 0 0 1 1 0 0 1 0 0
  0 1 1, 1 0 1 2 8 10 7 7 6 7 4 5 5 3 2 1 0 1, 1 0 0 0 1 1 1 0 1 0 1 0 1 0 2 0 0 1, 1 0 0 0 0 0 0
  0 0 0 0 0 0 0 0 0 0 1 0 1, 1 0 0 0 0 0 1 1 2 1 1 2 1, 1 0 0 1 5 4 1 2 6 0 1 4 2 0 3, 1 0 4 4 23
  31 28 31 34 38 21 25 18 16 5 6 2 0 1 1 0 0 1 / 1 0 1 1 5 13 15 13 15 16 7 9 4 4 1, 1 1 10 6 24
  30 29 28 44 26 36 17 28 14 8 2 3 3 2 2 / 1 0 2 3 5 13 9 9 12 8 8 4 4 4 2 0 0 2, 1 0 0 0 1 1 0 0
  1 1 2 0 0 3, 1 0 3 0 2 4 3 5 7 4 2 1 1 1 1 0 0 1 0 0 1 0 1, 2 0 0 1 4 3 2 2 2 1 0 1 0 0 0 0 0 0
  1 / 0 0 0 0 1 0 0 0 1 1, 1 0 0 2 1 0 0 1 1 1 0 0 1, 2 0 0 0 2 3 2 0 0 0 0 0 0 1, 1 0 0 1 0 1 0 0
  0 0 1, 2 0 0 1 6 5 3 2 7 5 2 3 0 1 1 1 1, 1 0 0 0 1 1 0 1, 2 0 0 0 1 3 2 0 1 0 2 0 2 1 / 0 0 0 0
  1 1 0 0 0 0 0 0 1, 1 0 3 1, 2 0 0 0 0 2 1 0 4 0 1 2 1, 2 0 0 0 3 8 1 3 1 4 4 0 0 0 0 1, 1 0 2 2
  0 2 0 0 1 2 2 1 0 1 0 0 0 0 0 0 0 0 1, 1 0 0 1 1 1 0 1 0 1 / 1 0 0 0 0 0 0 0 0 1, 1 1 1 1 3 11 6
  3 5 6 4 0 0 2 0 0 0 0 0 0 1 / 1 0 1 1 1 4 2 2 0 2, 1 0 1 2 1 1 3 0 0 0 0 0 0 0 0 0 1 1 0 0 0 0 0
  0 0 0 0 0 0 0 0 0 1 / 1 0 0 0 0 0 2, 1 0 0 0 0 1 0 0 0 0 0 0 1 / 1, 1 0 0 0 1 1 0 0 1 2"

/-- The ideographs of the first extension. -/
def firstExtensionTable : String :=
  "0 0 0 0 1 2, 0 0 2, , 0 1 0 0 0 1, 0 0 2 4 1 9 2 5 4 0 2 0 2 0 0 0 0 0 1, 0 0 0 1, 0 0 1 0 0 0
  1, 0 0 1 0 1 1 1 0 0 0 0 0 0 0 1, 0 0 1 8 12 5 13 9 12 6 11 8 11 13 3 2 2 2 1 2 1, 0 0 1 0 1 1 1
  0 1 0 0 1 0 0 0 0 1, , 0 0 0 1 2 1 1 1 0 0 0 1, 1 0 1 1 0 1 0 0 1 1 1 0 0 0 0 0 0 0 0 0 1, 1 0 2
  0 0 0 0 1 2, 1 0 0 0 1 3 1 0 2 1 1 0 0 1 0 1, 0 1 0 0 1 0 1 0 0 0 1, 1 0 0 1 0 0 0 0 0 0 1, 0 1
  1 1 2 5 7 7 9 4 1 2 8 3 2 1 0 0 0 1, 1 0 1 1 2 4 4 2 1 2 0 1 2 1 0 2, 1 0 1 0 0 0 1 0 0 0 1, 0 0
  1 1 0 0 0 0 0 1, 1 0 0 0 1 1 0 0 0 1 0 3 1 0 0 0 0 0 0 0 0 0 0 0 1, 0 0 0 0 0 1 0 0 0 0 1, 0 0 1
  1 0 0 1, 0 0 1 0 0 0 1, 0 1 0 1 0 1 0 0 0 0 0 1, 0 0 0 0 2 1 2 2 2 2 2 1 2 1 0 1 0 0 0 0 0 0 1,
  0 0 1 0 1 0 1 0 0 0 1 0 0 1, 1 0 1 1 0 1 1 1 1 0 0 0 1, 0 0 3 4 12 9 16 15 37 24 10 10 10 14 2 5
  3 3 3 4 0 0 1, 0 0 1 1 2 3 1 1 0 1 0 0 0 0 0 0 0 0 0 1, 0 0 1 1 9 5 11 3 8 9 11 12 8 5 3 1 2 1 0
  0 1 1, 1 0 0 0 1 0 1 0 0 1 0 1 0 0 0 0 0 1, 0 0 0 1 0 0 0 0 1, 0 0 0 0 0 1 0 0 0 0 0 1 0 0 0 0 0
  0 1, 0 0 1 0 0 1 0 0 0 1 0 0 1, 0 1 2 2 1 2 3 1 1 1 1 1 0 0 0 1, 0 0 1 4 7 25 12 11 16 31 11 11
  6 6 1 3 1 5 1 1 0 0 0 1, 1 0 0 1 1 3 1 1 2 0 1 1 0 0 1 0 0 1, 1 0 1 1 3 4 3 6 3 5 4 5 3 1 0 1 1
  0 0 0 0 0 0 0 1, 0 0 0 1 1 1 1 1 1 1 0 0 1, 1 0 2 1 0 1 1 0 0 0 1 0 0 0 0 0 0 0 0 0 0 1, 1 0 1 2
  0 1 0 0 0 1 0 1 0 1, 0 1 1 0 2 3 1 5 2 2 0 1 6 0 2 4 2 0 2 0 1 2, 2 2 1 2 0 11 10 11 10 10 12, 0
  0 0 0 0 1 0 0 0 1 0 15 9 5 5 2 4 2 2 1, 1 0 0 0 0 0 0 0 1, 0 0 0 1 0 0 0 1 1 1 0 0 0 0 0 0 0 1,
  0 1 0 0 0 1 0 0 1, 0 0 2 3 7 6 6 5 6 6 3 4 0 3 3 1 0 1, 0 0 1 1 0 1 0 0 0 0 0 0 0 0 0 1, 0 1 0 0
  0 0 1 0 0 0 0 0 0 0 0 0 0 0 0 1, 0 0 2 1 5 4 3 4 5 3 3 5 4 2 0 1 0 1 1 0 0 0 1, 0 0 0 1 1 1 2 0
  0 0 0 0 0 0 0 0 0 1, 0 1 1 0 1 1 1 0 0 0 0 1, 1 0 0 2 0 0 0 0 0 0 1, 1 1 1 2 1 4 2 2 2 3 1 2 1 1
  0 0 0 0 0 0 1, 0 0 0 1 0 0 0 0 1 0 0 0 0 1 0 0 1, 0 0 0 0 1 1 1 0 2 0 1 1 1 0 0 0 0 0 0 1, 0 0 1
  0 3 4 4 4 6 4 2 2 2 1 1 0 1 1, 1 3 1 6 11 11 21 23 21 20 11 13 10 8 8 3 3 2 0 3 0 1, 1 1 3 1 2 1
  0 2 2 2 2 1 0 1, 1 1 0 0 1 1 1 1 0 0 0 0 0 0 0 0 0 0 0 0 1, 1 2 6 4 4 9 20 18 12 21 12 28 11 8 8
  5 4 1 2 3 1, 1 0 0 0 0 1 0 0 0 0 0 0 1, 1 0 1 2 1 3 5 9 5 3 1 3 2 2 0 0 1 0 0 0 0 1, 0 0 0 1 0 0
  1 2 1 0 0 0 1 0 2 0 0 1 0 1 0 0 0 1, 1 0 0 1 0 1 2 2 2 0 1 0 0 0 0 0 0 0 0 0 0 0 0 0 0 1, 0 0 0
  0 1 2 0 1 3 0 0 0 1 0 1, 0 0 0 1 0 3 2 3 0 1 0 0 1 0 0 1, 0 0 0 0 0 1, 0 1 1 2 6 12 6 9 11 12 4
  6 11 5 1 3 1 0 2 1 0 1, 0 0 1 0 0 0 0 0 0 0 0 0 1 1, 0 0 0 0 1 0 3 1 1 1 2 3 1 1, 0 0 1 5 10 7
  16 14 22 24 18 24 25 18 5 10 12 4 2 1 1 2 0 0 1, 0 0 1 2 3 3 5 6 5 8 2 2 2 2 2 1 0 0 1 0 0 0 0
  1, 1 1 1 1 2 2 1 0 1 1 1 1 0 0 0 0 0 0 0 1, 0 0 1 0 2 2 2 2 9 2 3 4 2 1 0 1 0 1, 0 0 1 0 0 1 0 2
  1 1 1 1 1 0 0 0 0 0 0 1, 1 0 1 1 0 0 0 0 0 1, 1 0 0 0 0 2 0 1, 0 0 0 1 0 0 2 1 1 2 0 1 1 0 1, 1
  0 0 0 0 0 0 0 0 0 0 1, 0 0 1 0 1 1 1 0 1 1, 2 1 8 8 17 30 26 32 27 23 22 8 26 8 5 6 2 0 4 1 1 0
  1, 1 0 1 4 4 6 9 9 13 18 6 7 16 5 2 3 3 3 0 1 0 1 0 0 1, 1 0 0 0 0 1 0 0 1 0 0 0 0 1, 0 0 1 0 0
  0 0 0 0 1, 0 0 0 0 0 1 0 0 0 0 0 0 0 0 0 0 0 0 0 1, 0 0 0 0 0 1 0 0 0 0 1, 1 0 0 0 1 2 1 0 0 1 1
  2 0 0 0 0 0 0 0 1, 1 0 0 0 0 0 0 1 0 0 0 0 0 0 0 0 0 0 0 0 1, 1 0 1 2 5 4 2 10 5 4 4 3 3 1 0 2 1
  0 0 0 0 1, 1 1 2 3 3 14 5 2 13 7 3 8 4 2 1 1 1 0 1 1, 1 0 0 0 0 0 1 0 0 0 0 0 0 0 0 0 0 0 0 0 0
  1, 1 5 2 3 2 17 15 1 19 4 7 6 5 5 6 2 0 2 0 0 0 0 0 0 1, 0 0 0 0 0 1 1 1 1 0 0 1 0 0 1 0 0 1 0 1
  0 0 0 1, 1 0 1 2 8 3 3 4 5 5 2 5 4 2 1 0 1 0 0 0 0 0 0 1, 0 0 1 0 1 0 2 0 1 0 0 0 0 0 0 1, 1 0 0
  0 1 1 1 2 0 1 1, 0 0 0 0 0 0 0 0 0 0 0 0 0 0 0 0 1, 0 0 1 1 4 3 2 2 3 2 1 1 1 0 1 1 0 1, 1 0 0 0
  0 1 0 1 0 1 0 0 0 0 0 0 0 0 0 0 0 0 0 0 0 1, 0 0 2 5 7 10 5 15 12 9 17 6 5 5 2 0 3 1 1 0 0 1 0
  1, 1 0 0 0 0 0 0 1, 0 1 0 1 0 1 1 1 1 0 2 1 1 1 0 1 0 1, 0 0 0 1 0 2 1 2 0 4 1 1 1 1 0 1, 1 0 0
  1 2 2 2 1 2 1 0 1 3 2 0 1, 1 0 1 4 13 17 5 11 11 9 6 18 7 5 3 2 1 1 0 1 1 0 0 0 0 1, 0 0 0 0 0 1
  0 1 0 0 0 0 0 0 0 0 1, 1 0 0 1 1 1 0 1 1 0 0 0 1 0 0 0 0 1, 0 0 1 5 11 13 5 5 14 8 8 7 9 7 4 5 3
  1 1 1 0 0 1, 0 0 1 1 4 4 1 5 6 7 3 1 2 2 1 0 0 1, 1 0 0 0 0 0 0 1, 0 0 4 5 6 6 16 10 14 10 8 9 7
  2 5 2 0 1 1 1 0 0 0 0 0 1, 0 0 1 2 4 5 4 4 4 3 4 7 5 1 1 1 1 1, 1 0 1 2 4 3 1 1 2 1 0 1 0 0 0 1,
  0 0 1 1 9 11 9 15 13 33 7 21 4 21 5 4 5 4 1 1, 1 0 0 3 3 2 8 5 4 7 6 6 4 4 3 0 1 1 0 0 0 0 1, 0
  1 2 5 6 10 12 9 25 12 7 9 9 6 4 3 2 2 0 2 0 1 1 / 0 0 0 5 0 0 0 0 0 6 0 0 3 0 0 0 1, 0 0 0 1 2 0
  1 0 1 0 1 1 1 1 0 1 1, 2 0 1 1 4 0 1 3 3 1 2 1 1 2 0 0 0 1 0 0 0 0 0 1, 0 0 1 2 3 2 4 3 1 2 1 0
  1 2 0 1 0 0 0 0 0 0 0 0 0 1, 0 0 0 1 3 5 4 1 3 4 2 2 3 1 1, 1 0 0 0 2 1 1, 1 0 0 2 0 0 0 0 0 0 0
  0 0 0 0 0 0 0 0 0 0 0 1, 0 0 1 0 2 2 1 0 2 1 1 0 1 0 0 0 1, 0 1 0 0 3 2 2 1 4 3 2 2 1 1 1 0 1, 1
  0 0 0 1 0 0 1 0 1, 0 1 1 6 8 11 9 10 17 17 14 14 6 4 4 2 1 0 1 0 0 0 1, 0 0 0 0 1 0 0 0 0 0 0 1,
  0 1 0 0 0 0 1 0 0 1, 0 1 0 0 0 0 1 0 1, 1 0 0 0 1 0 1 0 1 0 1 0 1, 1 0 1 0 0 0 1 0 1 0 1 0 0 1,
  0 0 0 0 0 0 1 0 0 0 0 1, 0 0 1 1 6 6 2 5 2 5 3 2 2 3 2 1 0 1 1, 1 0 1 0 0 0 0 0 0 0 0 1 1, 1 0 0
  0 0 0 0 0 0 0 0 0 0 1, 1 0 2 4 13 6 23 14 2 8 51 5 1 24 25 13 32 10 2 4 1 1 0 1 0 0 0 1, 1 0 1 1
  3 4 3 1 1 1 3 2 1 0 0 0 0 0 0 0 1, 0 0 2 4 11 8 10 9 13 11 5 13 7 5 3 3 3 3 2 0 0 1, 1 0 0 1 1 0
  2 0 0 0 0 0 0 0 0 0 0 0 1, 0 0 0 1 1 0 1 0 0 0 1 0 1, 0 1 0 1 6 10 5 5 0 24 9 9 5 5 2 2 1 1 1 2,
  1 0 0 1 0 0 1 0 0 0 0 0 0 1 0 0 0 1, 1 0 0 1 4 2 3 2 2 3 3 3 2 1 1 1 0 0 1, 1 0 1 0 2 2 4 2 2 1
  1 0 1 1 1 1 1, 1 0 4 8 12 21 12 10 11 5 7 8 9 6 3 2 1 0 0 0 1 / 0 0 0 0 2 0 0 0 4 0 0 0 0 0 0 0
  1, 1 0 0 1 2 0 1 0 1 0 2 1 1 0 0 1 0 0 0 0 1, 1 0 0 1 1 0 1 0 2 1 0 1 0 1 0 0 0 0 1 0 1 0 0 1, 0
  1 0 1 4 2 2 1 1 1 2 0 1 0 0 0 0 0 0 0 1, 0 0 0 1 1 2 3 1 1 1 2 1 0 0 0 0 0 0 1, 1 0 1 2 3 7 5 4
  7 2 2 2 2 0 1 1 1 0 0 0 0 0 0 0 0 1 / 0 0 0 0 4 0 0 0 3, 1 0 0 0 1 0 0 1 0 0 1, 1 0 1 2 4 7 6 6
  12 4 1 1 5 2 2 0 2 0 0 1 0 0 0 1, 1 0 2 5 10 14 3 6 24 7 5 7 6 2 2 2 1 1 2 0 1, 0 0 0 1 0 1 1 1
  2 1 0 1 1 1 0 0 0 0 0 1, 0 1 0 3 9 9 3 2 8 8 4 5 3 3 2 1 1 0 0 0 1 / 0 0 0 0 2 0 0 0 3, 0 0 0 0
  0 0 1 0 1 1 0 0 0 0 1, 0 0 0 0 0 0 1, 1 0 1 2 4 3 4 7 3 5 3 2 2 2 1 1 0 0 0 1, 0 0 1 3 3 4 6 5 5
  6 3 4 5 2 0 2 1 1 1 0 1, 0 0 1 2 6 4 3 4 3 10 4 3 2 1 0 0 1 0 0 0 1, 0 0 0 0 0 0 0 0 0 0 0 0 0 0
  0 0 0 1, , 1 0 1 3 7 1 9 5 7 4 18 10 11 5 8 5 0 1 2 0 1 1 / 0 0 0 0 12 0 0 0 0 0 0 0 0 0 1, 0 0
  0 0 0 0 0 0 0 0 0 0 0 0 0 1, 0 0 0 0 1 4 8 7 14 4 2 2 1 2 / 0 0 0 3 0 0 0 0 0 0 2, 0 0 1 2 5 6 4
  7 2 9 3 3 2 4 3 1 0 1, 1 0 0 0 0 0 0 0 1 0 0 0 0 0 0 0 0 0 1, 0 0 3 1 4 4 1 1 1 2 3 0 0 0 0 0 1
  0 0 0 1, 0 0 0 1 2 4 2 7 9 5 2 4 3 3 3 1 1 1 0 1, 1 0 0 0 0 1 0 0 1, 1 0 0 0 0 0 0 0 0 0 0 0 0 0
  0 0 0 0 0 0 0 1, 0 0 0 0 0 0 1, 1 0 0 1 2 2 3 1 2 0 0 6 9 9 5 7 0 2 1 0 0 3, 3 0 0 3 0 5 7 2 7 8
  3 1 1 0 0 1 0 0 1, 0 1 0 0 0 0 1 0 1 0 1, 1 0 0 0 1 1 0 1 0 1 1 2 0 0 0 0 1, 1 0 1 2 6 5 9 10 9
  9 8 4 4 2 3 1 1 0 2, 1 0 0 2 1 9 4 4 4 4 5 1 2 0 0 0 0 0 1, 0 0 0 0 0 0 0 0 0 1 0 0 0 0 0 0 0 0
  0 0 0 0 0 0 0 1, 0 0 3 3 6 8 3 11 8 6 5 4 3 6 1 0 2 0 1 0 0 1, 1 0 1 0 0 0 0 0 1 0 0 0 0 0 0 1,
  1 0 0 0 1 2 0 0 3 1 0 1 0 0 0 0 0 0 1, 0 0 1 2 8 6 5 6 8 9 7 8 6 4 1 1 1 1 1 0 1 / 0 0 0 0 0 3 0
  0 0 1, 1 0 0 1 2 4 3 2 1 2 5 1 2 2 0 1 1, 1 0 1 0 0 1 0 0 1 0 0 0 1 0 0 0 0 0 1, 1 0 0 2 4 7 4 4
  5 6 2 2 3 1 1 0 0 0 0 0 0 0 1, 0 0 0 0 0 1 0 0 1 0 0 0 0 0 1 0 0 1, 0 0 0 0 0 0 0 0 0 0 0 1 0 0
  0 0 0 0 0 0 0 1, 0 0 0 0 0 0 1 0 1 0 0 1 0 0 0 0 1, 0 0 0 1 1 3 1 1 5 0 0 3 1 0 2, 1 0 2 3 14 8
  6 6 13 20 7 8 8 7 2 2 1 0 1 0 0 0 1 / 0 0 0 2 0 0 0 0 0 0 0 0 0 6, 0 0 3 2 18 12 16 5 11 7 9 4 9
  5 2 1 1 1 0 1 1 / 0 0 0 0 6 0 0 0 0 0 0 0 0 4, 0 0 0 0 1 0 0 0 1 0 1 0 0 1 0 0 0 0 0 0 0 1, 0 0
  1 0 1 2 1 2 3 1 1 1 0 1 0 0 0 1 0 0 0 0 1, 1 0 0 1 1 2 1 1 1 1 0 0 0 0 0 0 0 0 1, 0 0 0 1 1 0 0
  0 0 1 0 0 0 0 0 0 1, 1 0 0 0 1 1 0 1 0 0 0 0 0 0 0 0 0 0 0 0 0 0 0 0 1, 0 0 0 0 0 1 0 0 0 0 0 0
  1, 1 0 0 0 3 1 2 1 1 4 2 3 0 2 1 1 1 0 0 0 1, 1 0 0 1 1 1 0 1 0 0 1 0 0 0 0 0 0 0 0 1, 2 1 0 0 1
  3 2 1 1 0 2 0 2 2 0 0 0 0 0 0 0 1, 1 0 4 1 0 0 1 0 0 0 0 0 0 0 0 0 0 0 0 0 0 0 0 0 1, 0 0 0 0 0
  1 0 0 1 0 1 0 0 1, 0 0 0 1 0 3 0 1 0 1 1 0 0 0 0 1, 0 0 1 1 0 0 0 0 0 1 1 0 0 0 0 0 0 0 0 0 0 1,
  0 0 0 1 0 0 0 0 1 0 0 0 0 0 0 0 1, 1 0 1 0 1 4 2 3 2 3 2 0 0 1 0 0 0 0 0 0 1, 1 0 0 1 1 0 2 0 0
  0 0 0 0 0 0 0 1 0 0 0 0 0 0 0 0 1 / 0 0 0 0 1, 2 0 0 0 0 2 0 0 0 0 1 0 1 1 0 0 0 0 0 0 1, 2 0 0
  0 2 2 0 0 1 2"

/-- The ideographs of the second extension. -/
def secondExtensionTable : String :=
  "0 3 4 5 13 6 14 16 1 3 3 5 3 3 0 1 0 0 0 0 1 0 0 0 0 1, 2 2 4 10 3 0 3 1 2 1 0 0 1 0 0 0 0 0 0
  0 1, 2 1 2 2 3 0 2 0 2 0 0 0 0 0 0 0 1 0 0 0 0 0 0 1, 4 8 5 1 11 16 4 4 5 4 0 1 0 0 1 0 1 0 0 1
  0 0 1 0 1, 16 2 4 5 1 9 2 9 7 2 5 2 5 0 0 0 1 0 0 0 0 0 1, 3 2 2 3 0 2 3 2 0 0 0 0 0 0 1 0 0 0 0
  0 1, 2 6 10 1 5 3 5 0 0 0 1 0 0 0 0 0 1 0 0 0 0 0 0 1, 2 1 3 1 6 5 3 9 2 0 3 4 0 0 2 0 0 0 0 0 2
  0 0 0 1, 3 6 31 26 12 64 62 46 70 79 57 134 10 23 17 73 18 10 3 13 5 2 1 0 0 1, 1 1 4 3 7 9 8 4
  6 10 13 9 9 1 9 0 1 1 1 9 1 1 1 1 0 1, 5 5 5 0 5 1 5 5 0 1 0 1 0 1 1 1 1 0 1 0 0 0 0 1, 2 0 9 2
  8 2 6 7 2 2 0 4 1 0 2 0 2 1 0 0 0 0 1, 2 1 12 10 5 3 3 5 5 3 0 0 0 0 1 0 0 0 1 0 0 0 1, 3 0 6 5
  5 2 3 5 21 3 0 1 3 0 4 0 1 0 0 1, 2 0 0 6 8 9 8 16 17 8 18 3 4 10 4 5 0 1 0 0 1 0 0 1, 4 10 5 9
  13 3 10 0 1 4 8 0 8 0 1 0 0 1 0 0 1 0 1 0 0 1, 4 0 4 11 3 0 2 3 0 0 3 0 0 0 1 0 0 0 0 1 0 0 0 0
  1, 7 4 9 11 31 40 34 14 57 42 21 38 21 46 22 4 1 4 1 6 0 3 0 0 0 1, 1 1 3 5 7 15 14 15 10 14 7
  14 10 8 2 5 0 4 0 0 0 0 0 0 1, 2 1 13 8 2 19 51 1 2 3 54 0 0 0 0 0 0 0 0 0 1, 0 0 1 0 0 0 0 0 0
  1 0 0 0 0 0 1, 0 0 0 2 2 1 1 1 1 1 0 1 1 1 0 0 1 0 0 1, 0 0 1 0 0 1 0 1 0 1 0 0 0 0 0 0 0 0 0 0
  0 1, 0 1 2 2 2 0 2 1 0 1 0 0 0 0 0 0 0 0 1 0 1 1 1 1 1 1, 10 1 20 38 1 20 21 1 0 4 1 0 1 0 0 1 0
  1 0 0 1 0 1 0 0 1, 4 8 5 9 4 6 8 4 4 0 0 3 0 1 0 0 0 0 0 0 1, 2 0 7 4 7 6 11 19 14 13 19 7 17 10
  1 6 1 8 0 1 1 1 0 1 0 0 0 0 4, 3 1 10 10 7 4 10 0 0 7 4 0 42 79 7 5 0 0 0 0 0 0 0 0 1, 0 1 2 2 1
  0 3 3 1 0 0 0 0 1 0 0 1, 1 0 20 19 62 69 93 118 160 122 159 60 63 233 85 77 58 25 2 1 0 0 0 0 0
  1, 0 0 0 1 2 1 0 1 0 1 0 1 0 0 0 0 0 0 23 40 4 6 7 56 5 5, 57 56 7 26 50 45 26 65 65 89 39 69 75
  25 46 10 39 22 8 1 9 5 5 0 1, 5 5 5 4 23 0 10 4 10 13 5 9 10 4 0 0 1 0 0 1 1, 1 0 1 1 0 1 1 0 0
  0 0 0 0 0 0 1, 1 0 0 0 0 1 1 1 0 0 0 1 0 0 0 1 0 0 1, 1 0 2 1 1 1 0 2 6 3 0 11 2 1 0 0 0 1 0 0 1
  0 0 0 1, 5 13 19 21 16 19 26 14 17 20 14 22 6 12 1 2 1 0 0 2 3 0 0 0 1, 2 0 7 24 29 44 43 47 37
  29 116 41 85 52 44 12 9 17 6 14 4 7 1 0 0 1 0 0 0 0 1, 4 1 1 6 9 16 6 10 19 4 12 4 0 4 4 0 2 4 0
  2 0 1, 2 0 8 9 17 29 20 36 39 42 29 39 21 8 7 0 11 4 4 0 1 0 0 1, 4 1 4 10 11 4 8 14 11 11 0 4 6
  0 1 0 1 0 1 0 1 0 1 0 1, 6 10 20 16 0 11 15 1 0 5 11 5 1 0 1 0 1 0 1 0 1 0 1 0 1, 16 0 11 18 4 8
  0 0 8 11 0 4 0 8 0 1 0 0 1 0 0 1 0 0 1, 4 8 7 5 18 21 15 33 21 19 1 10 19 1 5 10 5 1 5 0 1 5 0 1
  0 1, 5 5 1 5 0 1 0 1 0 1 0 1 0 1 0 0 1 0 1 0 1 0 1 0 1, 5 6 24 38 35 50 58 41 91 90 40 28 50 43
  38 17 17 20 12 20 8 1 0 0 0 1, 9 0 0 5 5 0 0 1 5 0 0 0 3 0 0 1 0 0 0 1 0 0 0 1, 3 0 7 5 3 0 5 2
  1 2 3 0 0 1 0 0 0 0 1 0 0 0 1, 8 2 0 1 2 3 12 2 1 7 0 0 1 0 0 0 0 1 0 0 0 0 0 1, 2 6 8 5 16 26
  37 34 30 26 17 29 27 12 8 9 5 6 1 0 1 0 1 0 0 1, 5 0 5 13 1 9 0 0 1 0 5 0 1 0 1 0 1 0 1 0 0 1 0
  1 0 1, 4 5 5 0 1 0 5 1 0 2 0 0 1 0 0 0 0 0 1 0 0 0 0 1, 2 0 7 5 24 19 18 30 43 19 26 40 35 19 0
  4 6 10 3 4 0 0 4 0 0 1, 3 0 1 3 7 6 15 4 1 0 0 1 0 0 1 0 0 1 0 0 1 0 1 0 0 1, 3 8 4 4 10 4 8 3 1
  0 0 4 1 0 0 1 0 0 1 0 0 1 0 1, 4 4 4 11 0 0 1 0 0 4 4 0 1 0 1 0 0 1 0 0 1 0 0 1, 4 11 7 15 13 18
  12 14 21 14 11 12 9 5 4 3 0 0 0 4 3 0 0 0 1, 6 0 3 3 1 6 3 0 3 3 9 1 0 8 1 5 2 0 1 0 0 0 0 3, 3
  0 0 1 7 1 3 6 12 3 3 6 3 1 0 0 1 0 0 2 0 0 0 1, 2 0 0 4 11 16 16 21 47 22 21 26 17 9 8 0 3 5 2 1
  0 0 0 1, 5 8 9 21 55 72 43 79 140 72 81 80 94 77 53 47 7 11 5 30 0 8 1 0 1, 2 4 7 8 12 3 4 12 6
  22 18 10 6 9 1 0 0 1 3 0 1 0 0 0 1, 9 4 0 9 13 9 13 3 6 1 0 0 0 1 0 0 1 0 0 1 0 0 0 1, 13 16 16
  13 59 26 83 118 68 93 146 99 58 94 46 38 53 15 20 35 10 5 1 0 1 1, 5 0 5 0 0 5 0 1 4 1 0 0 5 0 1
  0 0 1 0 1 0 1 0 0 1, 9 0 9 19 6 22 23 53 50 27 13 34 25 34 0 9 18 1 1 1 0 1 0 0 1, 5 0 1 5 6 1
  13 25 12 7 1 0 7 1 5 0 0 1 0 2, 1 1 0 1 0 0 3 2 2 2 2 0 1 2 0 0 0 0 0 0 1, 1 2 0 0 5 2 0 3 4 0 4
  5 3 6 3 1 0 0 0 1 0 3 0 1, 4 0 0 0 9 7 11 17 5 9 5 0 4 3 2 7 2 0 1 0 0 0 0 1, 5 0 0 0 0 3 0 2 1
  2 0 0 1 0 0 0 0 1 0 0 0 1, 3 4 7 8 30 44 21 38 25 100 34 40 46 22 7 18 18 2 0 1 1, 0 1 0 1 0 1 1
  0 2 0 1 0 0 0 0 0 0 1, 0 0 1 0 1 1 2 1 1 1 0 0 1 0 0 0 1 0 0 0 0 0 0 0 7 13, 130 2 4 9 73 35 94
  54 121 20 220 82 124 91 69 46 37 44 26 14 11 28 0 0 7 1, 4 0 7 7 11 11 24 25 24 31 18 21 24 11 7
  4 0 1 3 1 0 0 1 0 0 1, 4 3 4 4 14 7 7 1 7 14 4 7 4 0 4 0 1 0 0 1 0 0 1 0 0 1, 4 3 4 5 16 19 13
  26 23 6 17 16 16 10 3 7 0 4 0 1 0 0 1, 4 0 1 0 3 7 4 13 9 19 11 11 11 1 6 1 0 1 0 3 0 0 0 1, 5 3
  2 6 3 3 0 0 0 3 1 1 0 1 0 1 0 1 1 0 1 0 1 0 1, 6 1 6 0 1 16 6 1 0 1 0 1 1 5 1 0 1 1 0 1 0 1 0 1
  0 1, 6 0 1 11 11 10 31 13 27 24 4 13 17 10 4 4 0 0 4 0 1 0 4 0 0 1, 3 7 4 0 4 0 1 0 0 1 0 0 1 0
  0 1 0 0 1 0 0 1 0 0 1, 4 3 11 7 10 17 24 4 2 0 1 0 0 0 0 0 0 0 0 1, 2 3 14 15 35 58 57 78 155 77
  195 64 207 13 64 69 59 0 65 21 25 4 14 1 4 0 1 1, 2 1 7 13 44 47 69 45 12 154 79 84 76 47 34 30
  54 18 11 34 4 9 1 0 3 4 0 0 0 3, 7 0 0 1 6 17 7 1 8 1 4 4 1 4 0 0 1 0 0 1 0 0 1 0 1, 4 0 4 1 4 0
  4 0 1 4 0 1 0 0 1 0 0 1 0 0 1 0 1 0 0 1, 4 0 0 1 0 4 0 4 1 0 4 1 0 0 1 0 0 1 0 1 0 0 1 0 0 1, 4
  0 0 1 4 4 4 1 1 7 7 7 1 7 1 0 1 1 0 1 1 0 1 1 0 1, 7 1 0 1 7 14 0 1 16 15 6 9 0 1 0 3 0 1 0 0 1
  0 0 1, 3 1 0 0 1 0 0 0 4 0 0 1 0 0 1 0 0 0 1 0 0 1 0 0 0 1, 6 0 9 16 22 24 14 16 30 30 33 19 14
  4 0 20 7 0 1 0 1 1 0 2, 3 5 8 13 14 75 20 8 51 49 43 68 31 18 8 8 8 3 6 8 0 0 1, 3 1 0 0 3 3 5 1
  0 0 0 1 0 0 0 1 0 0 1 0 0 0 1, 9 0 3 11 21 67 15 24 62 50 44 45 44 21 45 16 10 17 3 4 1 0 3 3 2,
  4 0 0 4 0 6 3 1 3 0 1 3 0 1 3 0 0 4 0 3 1 0 0 0 1, 3 1 3 6 27 10 9 12 15 92 53 2 1 2 0 0 1, 0 0
  0 1 0 0 1 0 1 0 0 0 0 0 0 0 1, 0 0 0 0 1 0 1 1 1 0 0 0 0 0 0 0 0 0 0 0 0 0 1, 0 1 1 0 1 0 0 2 0
  0 1 0 0 0 0 1 0 0 0 0 1 0 0 0 0 1, 12 2 12 18 27 26 18 22 21 13 9 16 13 6 12 12 0 7 0 1 2 1 1 1
  1 1, 8 0 0 2 1 2 0 4 0 4 0 0 0 0 1 0 0 0 0 1 0 0 0 0 0 1, 2 0 9 19 26 48 24 41 56 35 62 45 40 43
  16 5 14 9 4 5 0 3 0 2 1 2, 3 0 0 3 7 0 0 5 0 0 1 0 0 0 0 1 0 0 0 1 0 0 0 0 1, 2 5 9 3 9 14 11 15
  15 0 17 4 5 7 3 6 5 5 1 1 1 0 1 1 0 1, 6 1 0 7 0 12 7 12 6 24 7 6 6 7 1 2 1 0 0 0 1 0 0 0 0 1, 2
  0 5 2 13 24 21 12 8 12 4 12 15 10 1 5 1 0 1 0 1 0 0 1 0 1, 5 1 5 29 80 53 36 27 81 58 40 63 43
  38 48 25 20 1 5 15 11 5 0 1 0 1, 5 1 0 1 5 6 0 10 6 0 1 0 1 0 1 0 1 0 1 0 6 0 1 0 1, 6 0 5 11 15
  5 11 10 5 1 0 1 10 1 5 6 0 1 0 1 0 1 0 1, 6 0 11 13 17 73 28 30 39 31 35 77 43 20 15 15 16 4 12
  6 6 1 0 1 1, 9 1 2 10 18 36 17 50 22 39 21 11 20 18 9 6 1 8 3 6 0 0 0 1, 3 1 0 0 6 1 2 3 2 0 0 1
  0 0 0 0 1 0 0 0 0 1 0 0 0 1, 2 0 11 14 25 39 22 23 56 54 46 49 34 18 32 17 1 8 1 8 0 0 1 0 0 1,
  4 4 8 16 22 28 24 26 37 22 22 28 15 10 3 4 6 3 1 0 0 1 0 0 0 1, 3 0 7 6 25 22 9 19 10 18 0 4 7 5
  0 8 1 4 1 0 0 1 0 1, 5 0 9 22 24 55 42 46 64 64 99 55 122 56 50 26 42 27 8 15 6 0 0 0 2 0 1, 1 0
  3 13 16 13 42 34 60 30 22 22 34 28 5 4 4 2 0 2 1 2, 4 4 8 18 56 52 38 28 64 79 40 92 53 39 25 30
  7 15 4 14 1 7 1 4 0 1, 3 1 4 4 15 4 11 0 8 0 4 11 9 2 2 1 3 1 1 0 0 0 0 1, 4 2 12 8 23 3 9 22 17
  19 24 18 18 24 0 1 7 0 11 1 0 1 1 0 1, 5 0 2 11 24 18 9 24 3 16 6 1 12 16 5 8 0 1 0 0 1 0 1 0 0
  1, 4 1 0 10 32 27 17 7 18 12 3 3 3 1 1 1, 2 0 0 0 2 2 1 0 0 0 0 0 0 0 0 0 0 0 1, 1 0 0 3 0 0 0 0
  0 0 0 8 13 1 0 1 0 1 0 1 0 0 1 0 1, 5 1 5 5 24 29 5 9 15 10 12 5 6 0 3 2 6 0 0 1 0 0 0 1, 3 3 3
  5 28 28 18 11 22 22 12 24 12 4 16 0 8 1 0 1 0 0 1 0 1, 7 0 0 1 5 1 0 6 4 0 0 1 0 0 0 1 0 0 0 0 0
  0 0 0 1, 1 1 6 19 37 48 48 65 80 50 84 42 41 74 13 21 19 5 9 15 0 1 0 0 1, 5 0 9 1 0 1 4 1 5 0 0
  9 1 0 1 0 1 0 0 1 0 1 0 1, 5 5 0 1 9 1 10 1 0 6 5 0 1 1 1 0 1 0 1 0 1 0 1 0 1, 5 1 0 6 1 0 12 1
  2 1 2 0 1 0 0 0 1 0 0 0 1 0 0 0 0 1, 5 1 12 7 12 6 13 6 12 1 12 1 6 7 1 0 1 0 0 0 1 0 0 0 1, 3 0
  8 0 3 2 3 0 8 6 2 1 2 3 0 1 0 0 0 1 0 0 0 1, 3 0 0 1 0 0 3 3 2 1 0 2 1 2 1 1 2 0 0 1 0 0 0 0 1,
  2 0 2 8 26 16 6 20 9 12 8 6 5 8 7 2 1 2 2 0 0 0 1, 2 2 1 1 0 0 0 0 0 1 0 1 1 0 0 0 0 0 1 0 0 0 0
  0 1, 1 1 0 0 2 1 2 0 0 1 0 0 0 2 0 0 0 1 1 0 1, 4 2 12 34 53 3 47 126 122 416 116 136 37 119 58
  154 120 16 66 57 16 31 1 4 4 1, 4 0 8 4 16 23 11 8 13 9 32 16 9 0 1 1 1 1 0 0 2, 1 2 7 20 48 50
  56 57 86 91 64 42 11 8 3 4 2 3 2 0 0 1, 1 0 0 1 0 1 1 0 0 0 0 0 59 9 9 97 8 9 97 9 8 7 8 8 7 7,
  51 5 3 6 2 8 5 3 1 4 4 0 0 0 1 0 0 0 2 0 0 0 0 0 0 1, 4 1 3 12 43 40 26 32 6 82 36 46 34 34 14
  14 9 5 7 15 0 3 1 0 0 1, 9 0 1 3 0 4 6 3 1 0 0 1 3 6 1 0 0 4 0 3 1 0 0 1, 4 0 3 7 24 13 6 16 17
  19 10 7 10 6 4 9 0 1 6 1 0 1 0 1 0 1, 6 1 8 0 19 17 29 14 16 4 6 2 5 6 2 4 4 1 2 0 0 0 1, 4 1 14
  27 24 41 31 86 57 70 54 34 46 25 19 24 26 15 8 6 8 0 3, 3 0 1 3 7 1 3 2 3 0 8 3 3 0 1 2 3 1 0 0
  0 1 0 0 0 1, 2 1 0 5 3 0 6 0 15 1 7 7 0 7 0 0 1 0 4 0 3 4 0 1, 4 3 1 3 20 13 16 14 6 7 17 6 7 0
  1 0 0 1 0 0 1 0 0 1, 4 0 0 10 7 20 23 10 6 13 10 10 4 0 1 0 0 1 3 0 4 0 1 0 0 1, 3 0 10 11 17 27
  44 20 25 21 29 26 22 10 16 13 7 3 4 1 0 1 0 0 1, 3 0 1 0 9 0 10 3 6 3 4 0 0 0 1 0 0 1 0 0 1 0 0
  0 1, 6 1 12 9 21 35 27 18 30 9 3 4 12 3 6 1 3 0 0 4 0 0 1, 4 0 3 12 36 77 108 36 77 45 45 48 77
  30 36 20 12 10 12 5 8 1 1 0 0 1, 4 0 0 4 17 6 11 16 37 11 0 15 15 4 4 1 1 3 0 0 2 1, 3 2 5 18 23
  28 16 30 53 22 27 21 33 26 21 13 9 0 0 1 4 1 0 1, 5 0 1 0 1 6 5 4 2 8 2 1 2 1 2 0 0 0 0 0 1, 2 0
  0 2 0 0 1 1 1 0 0 1 1 0 0 0 1 0 0 0 0 0 0 1, 3 1 9 17 34 26 40 50 43 67 41 42 38 51 16 29 7 3 1
  5 1 0 0 1, 3 0 6 27 41 29 25 40 18 39 36 38 35 14 5 14 6 8 8 6 0 1 0 0 0 1, 3 0 6 19 29 14 44 73
  68 57 36 2 1 2 1 0 0 1 0 1, 1 0 0 0 0 1, 0 0 1 0 0 0 0 0 0 0 0 1, 0 1 3 9 24 1 75 52 73 97 81 33
  91 54 4 77 22 13 26 8 9 1, 2 0 0 1 0 0 1 0 0 0 0 1 0 0 1 0 0 0 0 0 0 0 0 1 1 2, 33 62 52 9 32 22
  25 27 38 36 25 14 23 41 9 1 1 1 1 1 0 1 1 1 1, 11 0 2 6 19 27 16 50 19 51 42 30 14 20 24 3 4 4 0
  0 1 0 0 1, 4 0 1 0 0 1 0 1 3 4 0 1 0 0 1 0 0 1 0 0 1 0 0 1, 4 0 17 7 27 24 15 7 12 6 72 6 1 6 1
  1 12 1 0 1 6 1 0 1 1, 7 0 1 18 31 26 13 25 52 31 13 46 32 23 18 4 7 1 2 4 0 1 0 0 1 0 0 0 0 0 0
  1, 2 0 0 0 3 2 3 1 3 0 1 0 0 0 0 0 1 0 0 0 0 0 0 0 0 1, 1 0 0 0 1 0 0 2 0 0 0 1 0 0 0 1 0 0 0 0
  0 0 0 0 0 1, 2 0 23 1 0 4 4 4 1 0 0 1 4 0 4 1 0 0 1 0 1 0 0 1, 4 1 4 26 31 48 45 27 30 56 27 15
  15 15 8 12 0 4 1 0 0 4 1 0 0 1, 4 0 1 4 0 8 12 4 11 19 19 4 8 4 1 7 1 0 0 1 0 1 0 0 1, 4 1 0 0 4
  1 4 4 4 0 4 1 0 1 0 0 1 0 0 1 0 1 0 0 1, 4 1 0 0 8 7 1 9 1 11 4 5 1 1 7 1 0 1 0 0 0 1 0 0 0 1, 2
  1 7 10 28 18 45 38 30 38 32 17 18 11 14 4 7 0 7 1 0 0 1 0 1, 4 0 0 10 9 25 11 16 23 10 18 13 18
  4 0 0 1 0 6 1 0 0 0 1, 4 0 0 1 0 0 1 0 0 0 1 0 3 1 0 0 1 0 3 1 0 0 1, 7 0 19 15 37 49 25 64 52
  40 22 15 16 24 7 8 15 1 15 1 0 8 1 1 0 1, 7 0 4 0 1 0 0 1 4 0 0 1 0 0 1 0 0 1 0 0 1 0 1 0 0 1, 3
  1 0 0 4 11 0 11 11 7 7 1 2 0 2 0 0 1 1 1, 2 0 4 11 29 47 31 16 42 37 59 25 28 15 7 7 32 11 11 6
  6 0 1 0 1 1, 5 1 6 20 8 16 16 12 8 15 26 12 11 8 4 4 4 0 1 0 0 1 0 1, 4 4 1 0 4 4 1 0 4 0 1 0 4
  4 1 0 0 1 0 1 0 0 1 0 0 1, 4 0 4 8 40 38 26 26 23 26 16 19 24 17 12 6 0 6 1 0 1 1 0 1 0 1, 6 0 1
  0 7 6 6 0 6 1 6 0 6 1 12 0 1 6 0 1 0 1 1 0 1, 6 1 0 1 0 1 1 0 1 0 1 0 1 0 1 1 0 6 1 6 1 0 1 0 0
  1, 3 1 0 0 0 1 3 4 6 4 3 7 3 1 0 0 1 0 0 1 0 0 0 1, 4 0 1 3 24 23 7 12 35 0 7 23 12 1 14 0 1 0 0
  1 0 0 0 1, 3 0 11 12 42 36 33 35 75 34 96 42 38 30 12 18 6 0 4 3 0 0 4 0 0 1, 3 3 30 18 54 49 53
  49 71 84 51 60 71 31 33 13 23 18 8 10 1 0 1 0 0 1, 5 1 0 1 5 5 1 0 6 5 10 1 0 15 0 1 0 1 0 1 0 1
  0 1 0 1, 5 1 14 1 10 18 9 16 14 9 4 3 1 1 1 0 0 1 0 0 1 1 1, 2 0 0 1 5 3 2 2 2 1 0 1 0 1 0 0 0 0
  1 0 0 0 0 1, 1 0 2 58 30 2 3 30 30 18 1 0 4 1 0 1 0 0 1 0 1 0 0 1 0 1, 8 0 1 0 9 12 9 0 0 1 0 1
  0 4 1 0 1 0 0 1 0 1 0 0 1, 5 0 0 5 0 5 0 0 1 0 5 0 0 1 0 1 0 0 1 0 1 0 0 1 0 1, 8 0 1 4 25 20 10
  7 24 16 7 10 0 3 4 3 4 0 1 0 0 0 1 0 0 1, 3 1 0 0 4 3 0 4 0 1 0 0 0 1 0 0 1 0 0 1 0 0 1 0 0 1, 6
  1 0 0 4 9 7 0 4 0 7 0 7 3 1 0 0 0 1 0 0 1 0 0 1, 3 1 10 3 0 1 0 0 1 0 0 1 0 0 0 1 0 0 1 0 0 1 0
  0 1, 7 0 0 1 0 6 4 0 13 1 3 7 3 0 1 0 0 1 0 0 1 0 0 1, 7 0 0 1 10 25 4 9 4 13 13 0 0 1 0 3 1 0 0
  1 0 0 1 0 0 1, 3 0 7 7 0 7 0 0 4 6 7 3 1 3 1 0 0 0 1 0 0 1 3 1, 4 0 0 4 1 2 1 2 1 2 0 0 0 1 0 0
  0 1 0 0 0 0 1, 2 3 2 2 7 23 24 17 20 14 21 1 1 21 1 1 1 1 1 1 11 1 1 1 1 1, 11 1 11 13 3 3 7 0 1
  0 0 0 0 1 0 0 3 2 1 0 0 0 1 0 0 0 0 0 0 0 0 0 3, 2 0 1 0 0 3 0 0 1 0 0 0 3 0 0 1 0 0 0 0 1 0 0 0
  1, 3 0 0 0 3 2 1 0 3 2"

/-- Ideographs of later extensions, each with one of the common block that is filed near it. -/
def landmarkTable : String :=
  "2a700:4e01 2a7dd:52cf 2a8fb:582f 2aa58:5dae 2afa2:7702 2b127:7eb5 2b138:7f35 2b1ed:83cb
  2b300:88e4 2b363:8bde 2b37d:8c34 2b404:8f6e 2b413:8f92 2b461:912c 2b4b4:9320 2b4e7:94a4
  2b50e:956f 2b52d:95f9 2b5ae:988c 2b5e7:9980 2b5f4:9995 2b61c:9a73 2b62c:9a99 2b696:9ca6
  2b6ed:9e44 2b73a:9fa6 2b740:4e01 2b7f9:953c 2b80a:9a73 2b81c:9f8c 2b81e:9fa6 2b820:4e01
  2bac7:55da 2bb5f:574e 2bb83:57f9 2be29:5f1f 2c029:6609 2c0a9:683e 2c1d5:6c81 2c27c:7090
  2c288:70d9 2c35b:73d6 2c488:78ab 2c542:7b6f 2c613:7ea6 2c64b:7f35 2c72c:8330 2c79f:8580
  2c7fd:86be 2c8d9:8bac 2c91d:8c30 2ca02:8f85 2ca0e:8f92 2ca7d:90c7 2caa9:916c 2cb29:9492
  2cb7c:9572 2cbb1:9613 2cbc0:9650 2cbce:9680 2cc56:9887 2cc5f:988c 2ccf5:9a7b 2cd0a:9aa3
  2cd8b:9c8a 2ce2a:9e6f 2ce7c:9f85 2ce93:9f8c 2ceae:9fa6 2ceb0:4e01 2e714:9320 2ebe1:9fa6
  2ebf0:4e01 2ee5e:9fa6 30000:4e01 30edd:9091 3134b:9fa6 31350:4e10 323b0:4e01 323b0:9fa6
  3347a:9fa6"

/-- Ideographs that do not stand where their blocks have them: the radical of each one, and the
strokes beside it.  A slash marks the simplified form of a radical. -/
def strayIdeographTable : String :=
  "4e17:1.3 4e2c:90.0 4e3d:1.6 4e49:3.2 4e61:52.0 4e62:46.1 4e90:1.2 52d7:72.7 5344:1.2 555f:66.7
  556b:30.9 5645:30.9 58a8:203.3 58e1:29.17 5a04:119.3 5b34:38.13 5c39:4.3 5c8d:46.6 5dbb:46.15
  5de1:162.3 5e50:130.9 5f6a:141.5 624f:64.2 625f:64.3 6278:64.4 63b2:64.9 63c5:64.11 6700:13.10
  6a2e:75.10 6c3d:11.4 6cf5:112.4 6eda:85.11 7560:106.5 7568:119.5 7adf:180.2 7ae0:180.2
  7b04:118.6 7bc0:118.7 7c11:118.10 81a4:74.11 842c:114.8 84b8:86.10 8652:27.8 8996:113.7
  89c6:113.5 8d01:66.14 965a:170.8 9d64:148.11 9ea6:199.0/ 9ed9:86.11 9efe:205.0/ 9f90:53.16
  9fb4:5.1 9fb5:64.0 9fb6:7.2 9fb7:140.0 9fb8:42.2 9fb9:12.4 9fba:24.6 9fbb:149.6 9fd4:167.10/
  9fd6:1.6 9fd8:9.10 9feb:167.13 9fec:112.5 9fed:167.5/ fa0e:27.9 fa0f:32.7 fa11:46.8 fa13:75.5
  fa14:75.6 fa1f:140.15 fa21:142.7 fa23:156.7 fa24:162.4 fa27:167.11 fa28:167.12 fa29:170.8
  2ecab:140.9"

end ProofOfExistence.Collation
