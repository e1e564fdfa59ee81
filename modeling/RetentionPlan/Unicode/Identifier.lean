import RetentionPlan.Unicode.Table

/-!
# Characters of identifiers

An identifier begins with a character of the property `XID_Start` (or an underscore) and goes on
with characters of `XID_Continue`. The second property is held as what it adds to the first.
-/
namespace RetentionPlan.Unicode

/-- The characters that may begin an identifier, the underscore included. -/
def identifierStart : CodePoints :=
  .ofText
    "41 19 4 0 1 19 2f 0 a 0 4 0 5 16 1 1e 1 1c9 4 b e 4 7 0 1 0 81 4 1 1 3 2 1 0 6 0 1 2 1 0 1
  13 1 52 1 8a 8 a5 1 25 2 0 6 28 47 1a 4 3 2d 2a 23 1 1 62 1 0 f 1 7 1 a 2 2 0 10 0 1 1d 1d
  58 b 0 18 20 9 1 4 0 5 15 4 0 9 0 3 0 17 18 7 a 5 17 1 5 11 29 3a 35 3 0 12 0 7 9 f f 4 7 2
  1 2 15 1 6 1 0 3 3 3 0 10 0 d 1 1 2 e 1 a 0 8 5 4 1 2 15 1 6 1 1 1 1 1 1 1f 3 1 0 13 2 10 8
  1 2 1 15 1 6 1 1 1 4 3 0 12 0 f 1 17 0 b 7 2 1 2 15 1 6 1 1 1 4 3 0 1e 1 1 2 f 0 11 0 1 5 3
  2 1 3 3 1 1 0 1 1 3 1 3 2 3 b 16 0 34 7 1 2 1 16 1 f 3 0 1a 2 2 0 2 1 1e 0 4 7 1 2 1 16 1 9
  1 4 3 0 1f 1 1 1 f 1 11 8 1 2 1 28 2 0 10 0 5 2 8 2 18 5 5 11 3 17 1 8 1 0 2 6 3a 2f 1 0 d 6
  3a 1 1 0 1 4 1 17 1 0 1 9 1 0 a 0 2 4 1 0 15 3 20 0 3f 7 1 23 1b 4 73 2a 14 0 10 5 4 3 3 0 3
  1 7 2 4 c c 0 11 25 1 0 5 0 2 2a 1 14c 1 3 2 6 1 0 1 3 2 28 1 3 2 20 1 3 2 6 1 0 1 3 2 e 1
  38 1 3 2 42 25 f 10 55 2 5 3 26b 2 10 1 19 5 4a 3 a 7 11 d 12 e 11 e c 1 2 f 33 23 0 4 0 43
  58 7 28 1 0 5 45 a 1e 31 1d 2 4 b 2b 4 19 36 16 9 34 52 0 5d 2e 11 7 36 1d d 1 a 2b 1a 23 29
  2 a 23 2 8 7 2a 2 2 29 3 1 5 1 1 3 0 5 bf 40 115 2 5 2 25 2 5 2 7 1 0 1 0 1 0 1 1e 2 34 1 6
  1 0 3 2 1 6 3 3 2 5 4 c 5 2 1 6 74 0 d 0 10 c 65 0 4 0 2 9 1 0 2 5 6 0 1 0 1 0 1 f 2 3 5 4 4
  0 11 28 a77 e4 6 3 3 1 c 25 1 0 5 0 2 37 7 0 10 16 9 6 1 6 1 6 1 6 1 6 1 6 1 6 1 6 226 2 19
  8 7 4 2 4 4 55 6 2 1 59 1 3 5 2a 1 5d 11 1f 30 f 200 19bf 40 568c 43 2d 2 10c 3 f a 1 14 2e
  10 1e 2 4f 27 8 2 66 2 3f 5 1 1 0 1 4 18 f 1 2 1 3 1 16 1d 33 e 31 3e 5 3 0 1 1 b 1b a 16 19
  1c 7 2e 1c 0 10 4 1 9 a 4 1 28 17 2 1 7 14 16 3 0 3 31 1 0 3 1 2 4 2 0 1 0 18 2 2 a 7 2 c 5
  2 5 2 5 9 6 1 6 1 2a 1 d 6 72 1d 2ba3 c 16 4 30 2104 16d 2 69 26 6 c 4 5 0 1 9 1 c 1 4 1 0 1
  1 1 1 1 6b 21 8a 6 d9 12 3f 2 35 28 9 77 0 1 0 3 0 1 0 1 0 1 0 1 7d 24 19 6 19 b 37 2 1e 3 5
  2 5 2 5 2 2 23 b 1 19 1 12 1 1 1 e 2 d 22 7a 45 34 10b 1c 3 30 2f 1f d 1d 5 25 a 1d 2 23 4 7
  1 4 2a 9d 12 23 4 23 4 27 8 33 c a 1 e 1 6 1 1 1 a 1 e 1 6 1 1 43 136 9 15 a 7 18 5 1 29 1 8
  45 5 2 0 1 2b 1 1 3 0 2 16 a 16 9 1e 41 12 1 1 a 15 a 19 46 37 6 1 40 0 f 3 1 2 1 1c 2a 1c 3
  1c 23 7 1 1b 1b 35 a 15 a 12 d 11 6e 48 37 32 d 32 d 23 15c 29 6 1 4e 1c a 0 8 15 2a 11 2e
  14 1b 16 c 34 39 1 2 0 d 2c 20 18 1a 23 1d 0 2 0 8 22 3 0 c 2f e 3 15 0 1 0 23 11 1 18 54 6
  1 0 1 3 1 e 1 9 7 2e 26 7 2 1 2 15 1 6 1 1 1 4 3 0 12 0 c 4 9e 34 12 3 14 2 1e 2f 14 1 1 0
  b8 2e 29 3 24 2f 14 0 3b 2a d 0 47 1a 25 6 b9 2b 74 3f 1f 7 2 0 2 7 1 1 1 17 f 0 1 0 5e 7 2
  26 10 0 1 0 1c 0 a 27 7 0 15 0 b 2d 13 0 12 48 107 8 1 24 11 0 31 1d 70 6 1 1 1 25 15 0 19 5
  1 1 1 1f e 0 147 12 bd 0 4f 399 66 6e 11 c3 a4c 60 f 42e fd1 246 21b9 238 7 1e 11 4e 11 1d
  12 2f 10 3 1f 14 5 12 2b0 3f 80 4a 5 0 42 c 40 1 1 0 1c 17f7 8 4d5 2a 8 22e7 3 1 6 1 1 1 122
  2d 2 11 3 8 18b 904 6a 5 c 3 8 7 9 1766 54 1 46 1 1 2 0 2 1 2 3 1 b 1 0 1 6 1 40 1 3 2 7 1 6
  1 1b 1 3 1 4 1 0 3 6 1 153 2 18 1 18 1 1e 1 18 1 1e 1 18 1 1e 1 18 1 1e 1 18 1 7 734 1e 1e1
  2c a 6 10 0 141 1d 12 2b 4f4 6 1 3 1 1 1 e 1 c4 3b 43 7 0 4b4 3 1 1a 1 1 1 0 2 0 1 9 1 3 1 0
  1 0 6 0 4 0 1 0 1 0 1 2 1 1 1 0 2 0 1 0 1 0 1 0 1 0 1 1 1 0 2 3 1 6 1 3 1 3 1 0 1 9 1 10 5 2
  1 4 1 10 1144 a6df 20 1038 7 dd 2 1681 e 1d30 c1f 21d 5e2 134a"

/-- The characters that may stand in an identifier but not at its head. -/
def identifierExtra : CodePoints :=
  .ofText
    "30 9 7d 0 248 6f 17 0 fb 4 109 2c 1 0 1 1 1 1 1 0 48 a 30 1e 6 0 65 6 2 5 2 1 1 3 2 9 17 0
  1e 1a 5b a f 9 21 8 9 0 18 3 1 8 1 2 1 4 2b 2 3c 7 2a 17 1 20 36 2 1 11 1 6 a 1 2 9 11 2 38
  0 1 6 2 1 2 2 9 0 a 1 2 9 e 0 2 2 38 0 1 4 4 1 2 2 3 0 14 b 3 0 b 2 38 0 1 7 1 2 1 2 14 1 2
  9 a 5 1 2 38 0 1 6 2 1 2 2 7 2 a 1 2 9 12 0 3b 4 3 2 1 3 9 0 e 9 10 4 37 0 1 6 1 2 1 3 7 1 b
  1 2 9 11 2 38 0 1 6 1 2 1 3 7 1 b 1 2 9 10 3 37 1 1 6 1 2 1 3 9 0 a 1 2 9 11 2 46 0 4 5 1 0
  1 7 6 9 2 1 3d 0 1 7 c 7 1 9 57 0 1 9 b 5 2 9 3e 1 6 9 b 0 1 0 1 0 4 1 31 13 1 1 5 a 1 23 9
  0 64 13 1 9 c 3 4 2 1 2 2 6 3 3 d b 1 e 2bf 2 9 8 3a0 3 1c 2 1d 1 1e 1 40 1f 9 0 2 9 21 2 1
  a 8f 0 76 b 4 b a 9 80 a 3c 4 39 9 1 1c 2 a 6 9 16 d 1 f 31 4 2f 10 b 9 11 8 c 2 1e c 2 9 2c
  d 30 13 8 9 6 9 76 2 1 14 4 0 6 0 2 2 c6 3f 23f 1 13 0 7b c 4 0 3 b bfe 2 8d 0 60 1f 22a 5
  69 1 7585 9 45 0 4 9 20 1 50 1 110 0 3 0 4 0 17 4 4 0 53 1 32 11 a 9 6 11 d a 1c 7 19 c 2c 3
  2f d f 9 b 0 a 9 2f d c 0 8 1 2 9 21 2 32 0 1 2 2 1 5 1 1 0 29 4 5 1 ec 7 1 1 2 9 4f24 0 2e1
  f 10 f 3 1 18 2 c0 9 25 0 5e 1 25d 0 e2 0 95 4 125 9 557 2 1 1 5 3 28 2 4 0 a5 1 23d 3 8 9
  171 1 99 a 31 3 7a 2 35 e 1f a 2 1 a 3 2d a 7 0 2d 9 6 2 24 d 1 9 5 1 2c 0 c 2 30 d 8 3 1 b
  52 b 6 0 a0 b 5 9 6 3 37 1 1 6 2 1 2 2 9 0 a 1 2 6 3 4 c0 11 9 9 4 0 51 13 c 9 d5 6 2 8 1b 1
  52 10 f 9 51 c 8 9 53 e 4 9 f2 e a5 9 46 5 1 1 2 3 1 0 1 1 c 9 77 6 2 6 3 0 1c 9 28 6 1 3 8
  0 9 a 2e f 195 7 1 7 10 9 38 15 1 d 7a 5 3 0 1 1 1 6 1 0 8 9 30 4 1 1 1 4 8 9 149 3 4b69 9
  56 9 26 4 3b 6 19 9 3f5 0 1 36 7 3 51 0 b 1 4cab 1 1261 2d 2 16 21e 4 3 5 8 7 2 6 1e 3 94 2
  589 31 200 36 4 31 8 0 e 0 16 4 1 e 550 6 1 10 2 6 1 1 1 4 105 6 9 9 164 0 3d d 5d6 6 6d 6 5
  9 1296 9 c0506 ef"

def isIdentifierStart (c : Char) : Bool := identifierStart.contains c

/-- May `c` stand in an identifier after its first character? -/
def isIdentifierRest (c : Char) : Bool := identifierStart.contains c || identifierExtra.contains c

end RetentionPlan.Unicode
