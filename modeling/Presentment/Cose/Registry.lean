/-!
# Registered numbers

The numbers that the COSE and content-format registries assign.  A header may name an
algorithm, a header parameter or a content format only by an assigned number or by text;
64-bit algorithm numbers below `-65536` are for private use.
-/

namespace Presentment.Cose

/-- Whether `n` lies in one of the given ranges, both ends included. -/
def inRanges (ranges : List (Int × Int)) (n : Int) : Bool :=
  ranges.any (fun range => range.1 ≤ n && n ≤ range.2)

/-- The numbers of algorithms, those of private use included. -/
def isAlgorithm (n : Int) : Bool :=
  inRanges [(-0x8000000000000000, -65537), (-65535, -65535), (-260, -257), (-47, -25),
    (-18, -10), (-8, -3), (0, 7), (10, 15), (24, 26), (30, 34)] n

/-- The numbers of header parameters. -/
def isHeaderParameter (n : Int) : Bool :=
  inRanges [(0, 7), (9, 12), (15, 15), (32, 35), (256, 257)] n

/-- The numbers of content formats. -/
def isContentFormat (n : Int) : Bool :=
  inRanges [(0, 0), (16, 18), (21, 23), (40, 42), (47, 47), (50, 52), (60, 63), (96, 98),
    (101, 102), (110, 115), (256, 256), (271, 272), (280, 281), (284, 287), (310, 311),
    (320, 320), (322, 322), (432, 432), (10000, 10001), (11050, 11050), (11060, 11060),
    (11542, 11544), (20000, 20000), (30000, 30000)] n

end Presentment.Cose
