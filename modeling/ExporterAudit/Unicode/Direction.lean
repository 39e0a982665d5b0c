import ExporterAudit.Unicode.Runs

/-!
The direction of characters in writing, as of Unicode 15.1. Only the classes that tell labels of
domain names apart are kept, and only for characters that such labels can have.
-/

namespace ExporterAudit.Unicode

/-- The direction of a character. -/
inductive Direction where
  | leftToRight
  | rightToLeft
  /-- A digit of a script that is written from right to left. -/
  | arabicNumber
  | europeanNumber
  /-- A mark, which goes with the character before it. -/
  | nonspacing
  /-- Any other character, such as punctuation. -/
  | neutral
deriving DecidableEq

namespace Direction

/-- The direction that an entry of the table tells. -/
def ofEntry : Text → Direction
  | 'L' :: _ => .leftToRight
  | 'R' :: _ => .rightToLeft
  | 'A' :: _ => .arabicNumber
  | 'E' :: _ => .europeanNumber
  | 'M' :: _ => .nonspacing
  | _ => .neutral

/-- The table, with a letter for each direction and `N` for the neutral one. -/
def table : List String :=
  [
    "30N aE 27N 1aL 64N 18L N 1c1L 2N 7L eN 2L 1cN L 11N 71M 4L 2N 7fL 2N 8bL 8M ffL 7N 2dM R M",
    "R 2M R 2M R 9M 36R 2N R 2N R N R 2N bM 30R 15M aA N 2A 3R M 65R 8M N 6M 2R 2M N 4M 2R aE",
    "17R M 1eR 1dM 59R bM 3aR 9M 2R 4N 3R M 18R 4M R 9M R 3M R 7M 29R 5M 3aR 8M 2aR 39M 37L M L",
    "M 4L 8M 4L M 3L fM 2L 2M 1dL M 3aL M 4L 6M 6L M 14L 4M cL 2N 7L N 2L 5M 39L 2M 3L 1bM 14L",
    "2M 3L M bL 2M 39L M 4L 8M 4L 3M 12L 4M bL 8N L 8M 3aL M 2L M L 6M 6L aM bL 4M 1cL M 3dL M",
    "cL 3M 23L dN M 3L M 37L M L 3M 5L 12M aL 4M 12L 7N 2L M 3aL M fL 9M dL 4M 1aL 2M 39L 2M 4L",
    "5M 7L M 14L 4M 1bL M 48L 5M 3L 6M 59L M 2L bM N 7L 8M 62L M 2L 9M bL 8M 48L 2M 1bL M L M L",
    "M 4N 33L eM L 5M L 2M 5L 31M 8L M 66L 4M L 6M L 2M 2L 2M 19L 2M 4L 3M 10L 4M dL M 2L 2M 6L",
    "M fL M 2bfL 3M 30L 10N 60L N 29aL 5N 72L 3M 1dL 2M 1eL eM 12L eM 37L 7M 8L M 2L bM 7L N L",
    "3M 10L 20N 75L 2M 22L M 76L 3M 4L 2M 9L M 6L 7M 6N 98L 22N 17L 2M 2L 3M 38L M L 9M L M 2L",
    "8M 6L dM 30L 54M 30L M L 5M L M 5L M 28L 9M cL 2M 20L 4M 2L 2M L 3M 38L M L 2M 3L M L 3M",
    "3aL 8M 2L 5M 95L 3M L dM L 7M 4L M 6L M 3L 2M c6L 41M 20bL c4N 34M 4aN 3cL 1acN 45L 1aN L",
    "316N L 153N 100L 330N b5L 7N 3L 4M 6L 7N 7fL M 60L 20M 205N 3L 19N 9L 4M 2L N 6L 4N 2L 4N",
    "58L 4M 3L N 5aL N c4L 30N 1bd0L 40N 5690L 40N 13dL 3N 5fL 4M N aM 3N 1dL 2M 50L 2M eL 23N",
    "65L N 79L M 3L M 4L M 19L 2M L 4N 4M 8L 8N 34L cN 44L aM 12L 12M dL M 26L 8M 19L bM 2eL 3M",
    "30L M 2L 4M 2L 2M 27L M 43L 6M 2L 2M 2L bM 3L M 8L M 2fL M 33L M L 3M 2L 2M 5L 2M L M 2aL",
    "2M 8L bM 69L 56N 25L M 2L M 4L 3M 4f2eL 94M 18cR e2N 25M 2eN 18dR 101L N 3eL 4dN 3L 40N",
    "2dL 83M 60L M 1fE 76L aM 480L 11fR N e1R fM 28R 8M a5R 6M 4eR 7N 1e4R cM 150A 2bR 2M 50R",
    "3M 46R bM 31R 4M 7aR L M 36L fM bL 14N aL M 2L 2M aL 3M 31L 4M 2L 2M 7L eM 30L 3M 24L 5M L",
    "9M 3dL M cL 2M 34L 9M aL 4M 2L M 5fL 3M 2L M L 2M 6L M 2L 3fM 5fL M 3L dM 10L 2M 39L 2M 3L",
    "M 25L 9aM 38L 8M 2L 3M L M 17L M 54L 6M L M 4L 2M L 2M eeL 6M 4L 2M L 2M 1bL 24M 33L 8M 2L",
    "M L 2M 1fL 20N 2bL M L M 2L 6M L M 65L 3M 2L 4M L 9M ffL 9M L 2M 100L 2M L M 4L M 90L 8M",
    "4L M 20L 6M 2L 2M 28L 6M 2L 4M 8L 9M L 6M 2L 3M 2eL dM L 2M 196L eM 54L 17M L 7M L 2M L",
    "4bM 31L 15M L 9M 40L 3M 2L M L M 15bL 2M bL 2M 34L 8M 2L M L M 92L 2aN 1441L M 6L fb9M",
    "26f0L 5M 3bL 7M 418L M 3fL 4M 4fL N L cM 4cadL 2M 1261L 50M 217L 3M 11L 8M 2L 7M 1eL 4M",
    "3bL 59N 3M 7bN 40L 60N 6a0L 37M 4L 32M 8L M eL M 16L 465M 100L 100M 30L 7M 177L 12M 2cL 4M",
    "fL 1d1N 1cL 4M 310L d0R 52M 22R 7M 5a5R 260N 1dL 3N 3dL 39N 7aL da0N f0000L"]

/-- The directions of all code points. -/
def all : Runs Direction := Runs.ofLines ofEntry table

end Direction

/-- The direction of a character. -/
def direction (c : Char) : Direction :=
  (Direction.all.get? c).getD .leftToRight

end ExporterAudit.Unicode
