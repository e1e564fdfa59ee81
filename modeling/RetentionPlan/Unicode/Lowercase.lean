import RetentionPlan.Unicode.Table

/-!
# Lower case

The lower-case form of a text. A character goes to its own lower-case partner; the capital dotted
I becomes two characters, and a capital sigma at the end of a word takes its final form.
-/
namespace RetentionPlan.Unicode

/-- Runs of characters that move by one amount: first code point, count, step, and the signed
amount folded to a natural number (even for up, odd for down). -/
def lowercaseRuns : Array Nat :=
  numbers
    "41 1a 1 40 c0 17 1 40 d8 7 1 40 100 18 2 2 132 3 2 2 139 8 2 2 14a 17 2 2 178 1 1 f1 179 3 2
  2 181 1 1 1a4 182 2 2 2 186 1 1 19c 187 1 1 2 189 2 1 19a 18b 1 1 2 18e 1 1 9e 18f 1 1 194
  190 1 1 196 191 1 1 2 193 1 1 19a 194 1 1 19e 196 1 1 1a6 197 1 1 1a2 198 1 1 2 19c 1 1 1a6
  19d 1 1 1aa 19f 1 1 1ac 1a0 3 2 2 1a6 1 1 1b4 1a7 1 1 2 1a9 1 1 1b4 1ac 1 1 2 1ae 1 1 1b4
  1af 1 1 2 1b1 2 1 1b2 1b3 2 2 2 1b7 1 1 1b6 1b8 1 1 2 1bc 1 1 2 1c4 1 1 4 1c5 1 1 2 1c7 1 1
  4 1c8 1 1 2 1ca 1 1 4 1cb 9 2 2 1de 9 2 2 1f1 1 1 4 1f2 2 2 2 1f6 1 1 c1 1f7 1 1 6f 1f8 14 2
  2 220 1 1 103 222 9 2 2 23a 1 1 5456 23b 1 1 2 23d 1 1 145 23e 1 1 5450 241 1 1 2 243 1 1
  185 244 1 1 8a 245 1 1 8e 246 5 2 2 370 2 2 2 376 1 1 2 37f 1 1 e8 386 1 1 4c 388 3 1 4a 38c
  1 1 80 38e 2 1 7e 391 11 1 40 3a3 9 1 40 3cf 1 1 10 3d8 c 2 2 3f4 1 1 77 3f7 1 1 2 3f9 1 1 d
  3fa 1 1 2 3fd 3 1 103 400 10 1 a0 410 20 1 40 460 11 2 2 48a 1b 2 2 4c0 1 1 1e 4c1 7 2 2 4d0
  30 2 2 531 26 1 60 10a0 26 1 38c0 10c7 1 1 38c0 10cd 1 1 38c0 13a0 50 1 12fa0 13f0 6 1 10
  1c90 2b 1 177f 1cbd 3 1 177f 1e00 4b 2 2 1e9e 1 1 3b7d 1ea0 30 2 2 1f08 8 1 f 1f18 6 1 f
  1f28 8 1 f 1f38 8 1 f 1f48 6 1 f 1f59 4 2 f 1f68 8 1 f 1f88 8 1 f 1f98 8 1 f 1fa8 8 1 f 1fb8
  2 1 f 1fba 2 1 93 1fbc 1 1 11 1fc8 4 1 ab 1fcc 1 1 11 1fd8 2 1 f 1fda 2 1 c7 1fe8 2 1 f 1fea
  2 1 df 1fec 1 1 d 1ff8 2 1 ff 1ffa 2 1 fb 1ffc 1 1 11 2126 1 1 3ab9 212a 1 1 417d 212b 1 1
  408b 2132 1 1 38 2160 10 1 20 2183 1 1 2 24b6 1a 1 34 2c00 30 1 60 2c60 1 1 2 2c62 1 1 53ed
  2c63 1 1 1dcb 2c64 1 1 53cd 2c67 3 2 2 2c6d 1 1 5437 2c6e 1 1 53f9 2c6f 1 1 543d 2c70 1 1
  543b 2c72 1 1 2 2c75 1 1 2 2c7e 2 1 547d 2c80 32 2 2 2ceb 2 2 2 2cf2 1 1 2 a640 17 2 2 a680
  e 2 2 a722 7 2 2 a732 1f 2 2 a779 2 2 2 a77d 1 1 11407 a77e 5 2 2 a78b 1 1 2 a78d 1 1 14a4f
  a790 2 2 2 a796 a 2 2 a7aa 1 1 14a87 a7ab 1 1 14a9d a7ac 1 1 14a95 a7ad 1 1 14a81 a7ae 1 1
  14a87 a7b0 1 1 14a23 a7b1 1 1 14a53 a7b2 1 1 14a29 a7b3 1 1 740 a7b4 8 2 2 a7c4 1 1 5f a7c5
  1 1 14a85 a7c6 1 1 1146f a7c7 2 2 2 a7d0 1 1 2 a7d6 2 2 2 a7f5 1 1 2 ff21 1a 1 40 10400 28 1
  50 104b0 24 1 50 10570 b 1 4e 1057c f 1 4e 1058c 7 1 4e 10594 2 1 4e 10c80 33 1 80 118a0 20
  1 40 16e40 20 1 40 1e900 22 1 44"

/-- The runs as quadruples, in ascending order. -/
def lowercaseTable : Array (Nat × Nat × Nat × Nat) :=
  (List.range (lowercaseRuns.size / 4)).toArray.map fun i =>
    (lowercaseRuns.getD (4 * i) 0, lowercaseRuns.getD (4 * i + 1) 0,
      lowercaseRuns.getD (4 * i + 2) 1, lowercaseRuns.getD (4 * i + 3) 0)

def cased : CodePoints :=
  .ofText
    "41 19 6 19 2f 0 a 0 4 0 5 16 1 1e 1 c2 1 3 4 cf 1 1a c0 3 2 1 3 2 1 0 6 0 1 2 1 0 1 13 1 52
  1 8a 8 a5 1 25 9 28 b17 25 1 0 5 0 2 2a 2 2 2a0 55 2 5 882 8 7 2a 2 2 40 2b 3f c 1 21 65 115
  2 5 2 25 2 5 2 7 1 0 1 0 1 0 1 1e 2 34 1 6 1 0 3 2 1 6 3 3 2 5 4 c 5 2 1 6 105 0 4 0 2 9 1 0
  3 4 6 0 1 0 1 0 1 3 1 5 4 0 2 3 5 4 4 0 11 1f 3 1 331 33 716 7b 2 66 6 3 3 1 c 25 1 0 5 0
  7912 2d 12 1b 86 4d 1 16 3 3 1 3a 5 1 1 0 1 4 1b 1 3 0 335 2a 5 8 7 4f 4f40 6 c 4 409 19 6
  19 4a5 4f 60 23 4 23 74 a 1 e 1 6 1 1 1 a 1 e 1 6 1 1 6c3 32 d 32 bad 3f 5560 3f 6580 54 1
  46 1 1 2 0 2 1 2 3 1 b 1 0 1 6 1 40 1 3 2 7 1 6 1 1b 1 3 1 4 1 0 3 6 1 153 2 18 1 18 1 1e 1
  18 1 1e 1 18 1 1e 1 18 1 1e 1 18 1 7 734 9 1 13 9e1 43 7ec 19 6 19 6 19"

/-- Characters that are passed over when the neighbours of a sigma are looked for. -/
def caseIgnorable : CodePoints :=
  .ofText
    "27 0 6 0 b 0 23 0 1 0 47 0 4 0 1 0 4 0 2 1 1f7 bf 4 1 4 0 9 1 1 0 fb 6 cf 0 5 0 31 2c 1 0 1
  1 1 1 1 0 2c 0 b 5 a a 1 0 23 0 a 14 10 0 65 7 1 9 1 3 21 0 1 0 1e 1a 5b a 3a a 4 0 2 0 18
  17 2b 2 2c 0 7 1 6 7 29 39 37 0 1 0 4 7 4 0 3 6 a 1 d 0 f 0 3a 0 4 3 8 0 14 1 1a 0 2 1 39 0
  4 1 4 1 2 2 3 0 1e 1 3 0 b 1 39 0 4 4 1 1 4 0 14 1 16 5 1 0 3a 0 2 0 1 3 8 0 7 1 b 1 1e 0 3d
  0 c 0 32 0 3 0 37 0 1 2 5 2 1 3 7 1 b 1 1d 0 3a 0 2 0 6 0 5 1 14 1 1c 1 39 1 4 3 8 0 14 1 1d
  0 48 0 7 2 1 0 5a 0 2 6 b 8 62 0 2 8 9 0 1 5 4a 1 1b 0 1 0 1 0 37 d 1 4 1 1 5 a 1 23 9 0 66
  3 1 5 1 1 2 1 19 1 4 2 10 3 d 0 2 1 6 0 f 0 5e 0 260 2 3b2 2 1d 1 1e 1 1e 1 40 1 1 6 8 0 2 a
  3 0 5 0 2d 4 33 0 41 1 22 0 76 2 4 1 9 0 6 2 db 1 2 0 3a 0 1 6 1 0 1 0 2 7 6 9 2 0 27 0 8 1e
  31 3 30 0 1 4 1 0 5 0 28 8 c 1 20 3 2 1 1 2 38 0 1 1 3 0 1 2 3a 7 2 1 40 5 52 2 1 c 1 6 4 0
  6 0 3 1 32 3e d 0 22 64 1bd 0 1 2 b 2 d 2 d 2 d 1 c 4 8 1 a 0 2 0 2 4 31 4 1 9 1 0 d 0 10 c
  33 20 b8b 1 71 2 7d 0 f 0 60 1f 2f 0 1d5 0 24 3 3 4 5 0 5d 5 5d 2 6f16 0 4e2 5 10e 0 62 3 1
  9 1 0 1c 3 50 1 e 21 4e 0 17 2 67 2 3 1 8 0 3 0 4 0 19 1 5 0 97 1 1a 11 d 0 26 7 19 a 2e 2
  30 0 2 3 2 1 11 0 15 1 42 5 2 1 2 1 c 0 8 0 23 0 b 0 33 0 1 2 2 1 5 1 1 0 1b 0 e 1 5 1 1 0
  64 4 9 2 79 0 2 0 4 0 4f30 0 93 10 23d f 3 0 c f 22 0 2 0 a9 0 7 0 6 0 b 0 23 0 1 0 2f 0 2d
  1 43 0 15 2 201 0 e2 0 95 4 405 5 1 29 1 8 246 2 1 1 5 3 28 2 4 0 a5 1 23d 3 183 1 99 a 31 3
  7b 0 36 e 29 0 2 1 a 2 31 3 2 1 2 0 4 0 a 0 32 2 24 4 1 7 3e 0 c 1 34 8 a 3 2 0 5f 2 2 0 1 1
  6 0 a0 0 3 7 15 1 39 1 3 0 25 6 3 4 c3 7 2 2 1 0 17 0 54 5 1 0 4 1 1 1 ee 3 6 1 1 1 1b 1 55
  7 2 0 1 1 6a 0 1 0 2 5 1 0 65 2 2 3 1 4 103 8 1 1 100 1 1 0 4 0 90 3 2 1 4 0 20 9 28 5 2 3 8
  0 9 5 2 2 2e c 1 1 196 6 1 5 1 0 52 15 2 6 1 1 1 1 7a 5 3 0 1 1 1 6 1 0 48 1 3 0 1 0 15b 1
  153b 8 36b7 4 3b 6 9 3 40b 0 3f 10 40 1 1 1 400b 3 1 6 1 1 c9e 1 1 3 125c 2d 2 16 220 2 9 f
  2 6 1e 3 94 2 7bb 36 4 31 8 0 e 0 16 4 1 e 550 6 1 10 2 6 1 1 1 4 105 d 170 0 3d 3 5e0 6 6d
  7 aaf 4 c0c01 0 1e 5f 80 ef"

/-- The partner of a character by a table of runs, itself if it is in none of them. -/
def partner (table : Array (Nat × Nat × Nat × Nat)) (c : Char) : Char :=
  let n := c.toNat
  match table.find? fun (first, count, step, _) =>
      first ≤ n && n ≤ first + (count - 1) * step && (n - first) % step == 0 with
  | some (_, _, _, shift) =>
    Char.ofNat (if shift % 2 = 0 then n + shift / 2 else n - (shift + 1) / 2)
  | none => c

/-- The single lower-case partner of a character, itself if it has none. -/
def lowerChar (c : Char) : Char := partner lowercaseTable c

/-- Is the nearest character that is not passed over a letter with case? -/
def meetsCased (cs : List Char) : Bool :=
  match cs.dropWhile caseIgnorable.contains with
  | c :: _ => cased.contains c
  | [] => false

/-- The lower-case form of the characters `rest`, those of `before` (nearest first) preceding. -/
def lowerChars (before : List Char) : List Char → List Char
  | [] => []
  | c :: rest =>
    let low :=
      if c = '\u03a3' then
        if meetsCased before && !meetsCased rest then ['\u03c2'] else ['\u03c3']
      else if c = '\u0130' then ['i', '\u0307']
      else [lowerChar c]
    low ++ lowerChars (c :: before) rest

/-- The lower-case form of a text. -/
def lowercase (s : String) : String := String.ofList (lowerChars [] s.toList)

end RetentionPlan.Unicode
