import ExporterAudit.Unicode.Runs

/-!
Combining marks, as of Unicode 15.1: which characters are marks, and their combining classes. Marks
of different classes do not interact, so their order does not count. The tables hold for
characters that domain names can have.
-/

namespace ExporterAudit.Unicode

/-- The table of marks, with `M` for these and `.` for all other characters. -/
def markTable : List String :=
  [
    "300. 71M 112. 8M 106. 2dM . M . 2M . 2M . 9M 40. bM 30. 15M 10. M 65. 8M . 6M 2. 2M . 4M",
    "23. M 1e. 1dM 59. bM 3a. 9M 9. M 18. 4M . 9M . 3M . 7M 29. 5M 3a. 8M 2a. 3aM 36. 3M . 12M",
    ". fM 2. 2M 1d. 4M 37. M . 10M 9. 9M 2. 4M 18. 7M 37. 20M 14. 2M 3. M b. 4M 37. M . 12M 12.",
    "4M 14. bM 37. M . 21M 3. 4M 1c. M 3b. 12M 7. fM 1a. 5M 37. M . 1aM a. 4M 1b. 3M 38. M .",
    "1fM 5. 4M d. 11M 37. 2M . 10M 9. M a. 4M 1b. 4M 45. 1cM c. 2M 3d. M 2. bM 8. 8M 62. M 2.",
    "9M b. 8M 48. 2M 1b. M . M . M 4. 2M 31. 14M . 2M 5. 31M 8. M 64. 14M 17. 4M 4. 3M . 3M 2.",
    "7M 3. 4M d. cM . M a. 4M 2bf. 3M 3b2. dM 13. 3M 1d. eM 12. eM 36. 1eM 9. 3M a5. 2M 22. M",
    "76. 20M d7. 7M 37. 2bM 30. 55M 2f. 11M 26. 9M c. 3M 1e. dM 38. 16M 28. 17M 95. 3M . 15M 4.",
    "M 6. M 2. 3M c6. 41M 2cf. 34M beb. 4M 8c. M 60. 20M 22a. 6M 69. 4M 75d2. 4M . aM 20. 2M",
    "50. 2M 110. M 3. M 4. M 17. 5M 4. 4M 50. 2M 32. 1aM 12. 12M d. M 26. 8M 19. 18M 21. 4M 2f.",
    "eM 24. M 43. 17M 3. M 8. 4M 2b. 3M 32. M . 3M 2. 2M 5. 2M . M 29. 5M 5. cM e2. 8M . 4M",
    "4f2e. 94M 26e. 25M 3b8. 83M 60. M 95. aM 681. fM 28. 8M a5. 6M 239. cM 17b. 2M 50. 3M 46.",
    "bM 31. 4M 7a. 3M 35. fM 29. M 2. 2M a. 4M 2d. bM 7. eM 30. 3M 24. fM f. 2M 2c. M c. 3M 30.",
    "eM 8. 4M . 2M 5c. cM 6. M 2. 3fM 5f. 11M 10. 5M 36. 2M . 12M 7. 6M 5. 9eM 35. 12M 17. M",
    "51. 14M eb. 12M 1b. 24M 30. 11M 6a. dM 65. 13M fc. fM f5. fM . M . 2M 8d. 10M 3. 1cM . aM",
    "28. 7M . 4M 8. 9M . bM 2e. 10M 195. 11M 52. 6eM 31. 15M . 9M 3a. eM 15b. 4M 9. 2M . M 30.",
    "fM 14fd. M 6. fb9M 26f0. 5M 3b. 7M 418. M . 42M 51. 1cM 4c9d. 2M 1261. 50M 215. 5M 3. 16M",
    "2. 7M 1e. 4M 94. 3M 7bb. 37M 4. 32M 8. M e. M 16. 465M 100. 100M 30. 7M 177. 12M 2c. 4M",
    "1fc. 4M 3e0. 52M 22. 7M f16b5."]

/-- Which code points are marks. -/
def marks : Runs Bool := Runs.ofLines (· == ['M']) markTable

/-- Whether a character is a combining mark. -/
def isMark (c : Char) : Bool :=
  (marks.get? c).getD false

/-- The table of combining classes, each after a point. -/
def combiningTable : List String :=
  [
    "300.0 15.230 .232 4.220 .232 .216 5.220 2.202 4.220 2.202 b.220 5.1 4.220 a.230 3.220",
    "3.230 3.220 3.230 4.220 .230 .232 2.220 .230 .233 2.234 .233 2.234 .233 e.230 112.0 5.230",
    "109.0 .220 4.230 .220 3.230 .222 .220 6.230 6.220 2.230 .220 2.230 .222 .228 .230 .10 .11",
    ".12 .13 .14 .15 .16 .17 .18 2.19 .20 .21 .22 .0 .23 .0 .24 .25 .0 .230 .220 .0 9.18 40.0",
    "8.230 .30 .31 .32 30.0 .27 .28 .29 .30 .31 .32 .33 .34 2.230 2.220 5.230 .220 2.230 .220",
    "10.0 .35 65.0 8.230 .0 4.230 .220 .230 2.0 2.230 .0 .220 2.230 .220 23.0 .36 1e.0 .230",
    ".220 2.230 .220 2.230 3.220 .230 2.220 .230 .220 3.230 .220 .230 .220 .230 .220 .230 .220",
    "4.230 9e.0 7.230 .220 .230 9.0 .220 18.0 4.230 .0 9.230 .0 3.230 .0 7.230 29.0 5.220 3a.0",
    ".230 3.220 4.230 2a.0 5.230 5.220 f.230 .220 2.230 .220 2.230 .220 3.230 3.220 .27 .28 .29",
    "3.230 .220 2.230 2.220 5.230 3c.0 .7 10.0 .9 3.0 .230 .220 2.230 67.0 .7 10.0 .9 30.0",
    "3.230 3b.0 2.7 f.0 4.9 6b.0 .7 10.0 3.9 6c.0 .7 10.0 8.9 78.0 3.9 6c.0 .7 10.0 8.9 .84",
    "2.91 64.0 .7 10.0 8.9 66.0 2.9 10.0 .9 7c.0 5.9 69.0 2.103 5.9 9.0 4.107 6c.0 2.118 .9 d.0",
    "4.122 4c.0 2.220 1b.0 .220 .0 .220 .0 .216 37.0 .129 2.130 6.132 4.130 2.0 2.130 2.230 .9",
    ".0 2.230 3e.0 .220 70.0 .7 .0 2.9 52.0 .220 2cf.0 3.230 3b4.0 b.9 15.0 .9 9d.0 .9 a.0",
    "3.230 c9.0 .228 8f.0 .222 .230 5.220 d7.0 .230 .220 47.0 .9 14.0 a.230 .220 30.0 5.230",
    "6.220 2.230 .220 .0 2.220 2.230 2.220 5.230 .220 35.230 34.0 .7 f.0 .9 26.0 .230 .220",
    "7.230 36.0 2.9 3a.0 .7 b.0 a.9 3b.0 4.7 95.0 3.230 .0 .1 5.220 2.230 4.220 .230 .0 7.1 4.0",
    ".220 6.0 .230 3.0 2.230 c6.0 2.230 .220 7.230 .220 2.230 .234 .214 .220 .202 25.230 .232",
    "2.228 .220 .218 .230 .233 .220 .230 2.220 2cf.0 2.230 2.1 4.230 3.1 2.230 4.0 .230 3.0 2.1",
    ".230 .220 .230 2.1 4.220 14.230 beb.0 4.230 8c.0 .9 60.0 20.230 22a.0 .218 .228 .232 .222",
    "2.224 69.0 4.8 75d2.0 .230 4.0 a.230 20.0 2.230 50.0 2.230 114.0 .9 25.0 4.9 94.0 .9 1b.0",
    "12.230 39.0 3.220 25.0 c.9 54.0 .7 c.0 .9 ef.0 .230 .0 2.230 .220 2.0 2.230 5.0 2.230 .0",
    ".230 34.0 b.9 ec.0 3.9 4f2e.0 94.26 26e.0 7.230 7.220 17.230 3b8.0 83.220 60.0 .220 95.0",
    "a.230 68d.0 .220 .0 .230 28.0 .230 .1 5.220 .9 a5.0 .230 5.220 239.0 c.230 17b.0 2.230",
    "50.0 3.220 46.0 2.220 3.230 .220 .230 4.220 31.0 .230 .220 .230 .220 c0.0 .9 29.0 .9 e.0",
    ".9 39.0 .9 .7 45.0 3.230 30.0 3.9 3d.0 .7 4c.0 .9 9.0 .7 6a.0 .9 .7 b2.0 .7 6.9 4b.0 2.7",
    "10.0 3.9 16.0 9a.230 42.0 .9 3.0 .7 17.0 .230 63.0 .9 .7 fb.0 .9 .7 7e.0 .9 76.0 .9 .7",
    "73.0 5.9 109.0 .9 .7 102.0 2.9 4.0 .7 9c.0 .9 53.0 .9 12.0 9.9 49.0 .9 1a5.0 .9 102.0 .7",
    ".0 2.9 51.0 .9 1a9.0 2.9 4bad.0 5.1 3b.0 7.230 4b9.0 10.6 4c9e.0 .1 14c6.0 2.216 3.1 3.0",
    ".226 d.216 8.220 2.0 5.230 2.220 1e.0 4.230 94.0 3.230 dbb.0 100.230 30.0 7.230 177.0",
    "12.230 2c.0 4.230 1fc.0 2.232 .220 .230 3e0.0 52.220 22.0 6.230 .7 f16b5.0"]

/-- The combining classes of all code points. -/
def combiningClasses : Runs Nat :=
  Runs.ofLines (fun entry => Binary64.decimalValue (entry.drop 1)) combiningTable

/-- The combining class of a character; zero for all that are no marks and for some that are. -/
def combiningClass (c : Char) : Nat :=
  (combiningClasses.get? c).getD 0

/-- Whether a character is a mark that takes the vowel from a consonant. -/
def isVirama (c : Char) : Bool :=
  combiningClass c == 9

end ExporterAudit.Unicode
