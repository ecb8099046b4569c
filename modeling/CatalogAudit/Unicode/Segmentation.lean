import CatalogAudit.Unicode.BinaryProperty

/-!
# Segmentation

Where a text may be broken between graphemes, words and sentences goes by three
classifications of the characters. The value `Other` of each is what no class
has, and cannot be asked for. The data is that of version 16.0 of the Unicode
Character Database.

* `ClusterBreak.all`, `WordBreak.all` and `SentenceBreak.all` are the classes
  with their names.
-/

namespace CatalogAudit.Unicode

open Category

set_option maxRecDepth 4000

def carriageReturn : CategoryRule where
  categories := []
  exceptions := [(13, 13)]

def lineFeed : CategoryRule where
  categories := []
  exceptions := [(10, 10)]

def zeroWidthJoiner : CategoryRule where
  categories := []
  exceptions := [(8205, 8205)]

namespace ClusterBreak

/-- Controls and format characters that do not join what is beside them. -/
def control : CategoryRule where
  categories := [cc, cf]
  exceptions := [
    (10, 10), (13, 13), (1536, 1541), (1757, 1757), (1807, 1807), (2192, 2193), (2274, 2274),
    (8204, 8205), (8232, 8233), (8293, 8293), (65520, 65528), (69821, 69821), (69837, 69837),
    (917504, 917504), (917506, 917759), (918000, 921599)]

def extend : CategoryRule where
  categories := [mn, me]
  exceptions := [
    (2494, 2494), (2519, 2519), (2878, 2878), (2903, 2903), (3006, 3006), (3031, 3031),
    (3264, 3264), (3266, 3266), (3271, 3272), (3274, 3275), (3285, 3286), (3390, 3390),
    (3415, 3415), (3535, 3535), (3551, 3551), (5909, 5909), (5940, 5940), (6965, 6965),
    (6971, 6971), (6973, 6973), (6979, 6980), (7082, 7082), (7154, 7155), (8204, 8204),
    (12334, 12335), (43347, 43347), (43456, 43456), (65438, 65439), (70080, 70080), (70197, 70197),
    (70462, 70462), (70477, 70477), (70487, 70487), (70584, 70584), (70594, 70594), (70597, 70597),
    (70599, 70601), (70607, 70607), (70832, 70832), (70845, 70845), (71087, 71087), (71350, 71350),
    (71984, 71984), (71997, 71997), (73537, 73537), (94192, 94193), (119141, 119142),
    (119149, 119154), (127995, 127999), (917536, 917631)]

def leadingJamo : CategoryRule where
  categories := []
  exceptions := [
    (4352, 4447), (43360, 43388)]

/-- The Hangul syllables are those of 399 pairs of consonant and vowel, each followed by those
    with one of 27 final consonants. -/
def syllables (first last : Nat) : CategoryRule where
  categories := []
  exceptions := (List.range 399).map fun i => (44032 + 28 * i + first, 44032 + 28 * i + last)

/-- What is drawn around or before the character behind it. -/
def prepend : CategoryRule where
  categories := []
  exceptions := [
    (1536, 1541), (1757, 1757), (1807, 1807), (2192, 2193), (2274, 2274), (3406, 3406),
    (69821, 69821), (69837, 69837), (70082, 70083), (70609, 70609), (71999, 71999), (72001, 72001),
    (72250, 72250), (72324, 72329), (73030, 73030), (73474, 73474)]

def spacingMark : CategoryRule where
  categories := [mc]
  exceptions := [
    (2494, 2494), (2519, 2519), (2878, 2878), (2903, 2903), (3006, 3006), (3031, 3031),
    (3264, 3264), (3266, 3266), (3271, 3272), (3274, 3275), (3285, 3286), (3390, 3390),
    (3415, 3415), (3535, 3535), (3551, 3551), (3635, 3635), (3763, 3763), (4139, 4140),
    (4152, 4152), (4194, 4196), (4199, 4205), (4227, 4227), (4231, 4236), (4239, 4239),
    (4250, 4252), (5909, 5909), (5940, 5940), (6753, 6753), (6755, 6756), (6965, 6965),
    (6971, 6971), (6973, 6973), (6979, 6980), (7082, 7082), (7154, 7155), (12334, 12335),
    (43347, 43347), (43456, 43456), (43643, 43643), (43645, 43645), (70080, 70080), (70197, 70197),
    (70462, 70462), (70477, 70477), (70487, 70487), (70584, 70584), (70594, 70594), (70597, 70597),
    (70599, 70601), (70607, 70607), (70832, 70832), (70845, 70845), (71087, 71087), (71350, 71350),
    (71456, 71457), (71984, 71984), (71997, 71997), (73537, 73537), (94192, 94193),
    (119141, 119142), (119149, 119154)]

def trailingJamo : CategoryRule where
  categories := []
  exceptions := [
    (4520, 4607), (55243, 55291)]

def vowel : CategoryRule where
  categories := []
  exceptions := [
    (4448, 4519), (55216, 55238), (93539, 93539), (93543, 93546)]

/-- The classes of graphemes with their names, long and short. -/
def all : List (List String × CategoryRule) := [
  (["control", "cn"], control),
  (["cr"], carriageReturn),
  (["extend", "ex"], extend),
  (["l"], leadingJamo),
  (["lf"], lineFeed),
  (["lv"], syllables 0 0),
  (["lvt"], syllables 1 27),
  (["prepend", "pp"], prepend),
  (["regionalindicator", "ri"], BinaryProperty.regionalIndicator),
  (["spacingmark", "sm"], spacingMark),
  (["t"], trailingJamo),
  (["v"], vowel),
  (["zwj"], zeroWidthJoiner)]

end ClusterBreak

namespace WordBreak

def letter : CategoryRule where
  categories := [lm, lo, nl]
  exceptions := [
    (65, 90), (97, 122), (181, 181), (184, 184), (192, 214), (216, 246), (248, 442), (444, 447),
    (452, 659), (662, 687), (706, 709), (722, 727), (734, 735), (741, 747), (749, 749), (751, 767),
    (880, 883), (886, 887), (891, 893), (895, 895), (902, 902), (904, 906), (908, 908), (910, 929),
    (931, 1013), (1015, 1153), (1162, 1327), (1329, 1366), (1370, 1372), (1374, 1374), (1376, 1416),
    (1418, 1418), (1488, 1514), (1519, 1523), (1807, 1807), (3585, 3632), (3634, 3635),
    (3648, 3654), (3713, 3714), (3716, 3716), (3718, 3722), (3724, 3747), (3749, 3749),
    (3751, 3760), (3762, 3763), (3773, 3773), (3776, 3780), (3782, 3782), (3804, 3807),
    (4096, 4138), (4159, 4159), (4176, 4181), (4186, 4189), (4193, 4193), (4197, 4198),
    (4206, 4208), (4213, 4225), (4238, 4238), (4256, 4293), (4295, 4295), (4301, 4301),
    (4304, 4346), (4349, 4351), (5024, 5109), (5112, 5117), (6016, 6067), (6103, 6103),
    (6108, 6108), (6480, 6509), (6512, 6516), (6528, 6571), (6576, 6601), (6688, 6740),
    (6823, 6823), (7296, 7306), (7312, 7354), (7357, 7359), (7424, 7467), (7531, 7543),
    (7545, 7578), (7680, 7957), (7960, 7965), (7968, 8005), (8008, 8013), (8016, 8023),
    (8025, 8025), (8027, 8027), (8029, 8029), (8031, 8061), (8064, 8116), (8118, 8124),
    (8126, 8126), (8130, 8132), (8134, 8140), (8144, 8147), (8150, 8155), (8160, 8172),
    (8178, 8180), (8182, 8188), (8450, 8450), (8455, 8455), (8458, 8467), (8469, 8469),
    (8473, 8477), (8484, 8484), (8486, 8486), (8488, 8488), (8490, 8493), (8495, 8500),
    (8505, 8505), (8508, 8511), (8517, 8521), (8526, 8526), (8579, 8580), (9398, 9449),
    (11264, 11387), (11390, 11492), (11499, 11502), (11506, 11507), (11520, 11557), (11559, 11559),
    (11565, 11565), (12294, 12295), (12321, 12329), (12337, 12341), (12344, 12346), (12353, 12438),
    (12445, 12447), (12449, 12538), (12540, 12543), (12784, 12799), (13312, 19903), (19968, 40959),
    (42560, 42605), (42624, 42651), (42760, 42774), (42784, 42863), (42865, 42887), (42889, 42894),
    (42896, 42957), (42960, 42961), (42963, 42963), (42965, 42972), (42997, 42998), (43002, 43002),
    (43488, 43492), (43494, 43503), (43514, 43518), (43616, 43638), (43642, 43642), (43646, 43695),
    (43697, 43697), (43701, 43702), (43705, 43709), (43712, 43712), (43714, 43714), (43739, 43741),
    (43824, 43867), (43872, 43880), (43888, 43967), (63744, 64109), (64112, 64217), (64256, 64262),
    (64275, 64279), (64285, 64285), (64287, 64296), (64298, 64310), (64312, 64316), (64318, 64318),
    (64320, 64321), (64323, 64324), (64326, 64335), (65313, 65338), (65345, 65370), (65382, 65439),
    (66560, 66639), (66736, 66771), (66776, 66811), (66928, 66938), (66940, 66954), (66956, 66962),
    (66964, 66965), (66967, 66977), (66979, 66993), (66995, 67001), (67003, 67004), (68736, 68786),
    (68800, 68850), (68944, 68965), (68976, 68997), (71424, 71450), (71488, 71494), (71840, 71903),
    (93760, 93823), (94208, 100343), (100352, 101589), (101631, 101640), (110576, 110579),
    (110581, 110587), (110589, 110590), (110592, 110882), (110898, 110898), (110928, 110930),
    (110933, 110933), (110948, 110951), (110960, 111355), (119808, 119892), (119894, 119964),
    (119966, 119967), (119970, 119970), (119973, 119974), (119977, 119980), (119982, 119993),
    (119995, 119995), (119997, 120003), (120005, 120069), (120071, 120074), (120077, 120084),
    (120086, 120092), (120094, 120121), (120123, 120126), (120128, 120132), (120134, 120134),
    (120138, 120144), (120146, 120485), (120488, 120512), (120514, 120538), (120540, 120570),
    (120572, 120596), (120598, 120628), (120630, 120654), (120656, 120686), (120688, 120712),
    (120714, 120744), (120746, 120770), (120772, 120779), (122624, 122633), (122635, 122654),
    (122661, 122666), (125184, 125251), (127280, 127305), (127312, 127337), (127344, 127369),
    (131072, 173791), (173824, 177977), (177984, 178205), (178208, 183969), (183984, 191456),
    (191472, 192093), (194560, 195101), (196608, 201546), (201552, 205743)]

def doubleQuote : CategoryRule where
  categories := []
  exceptions := [
    (34, 34)]

def extend : CategoryRule where
  categories := [mn, mc, me]
  exceptions := [
    (8204, 8204), (65438, 65439), (127995, 127999), (917536, 917631)]

def joiner : CategoryRule where
  categories := [pc]
  exceptions := [
    (8239, 8239)]

def format : CategoryRule where
  categories := [cf]
  exceptions := [
    (1536, 1541), (1757, 1757), (1807, 1807), (2192, 2193), (2274, 2274), (8203, 8205),
    (69821, 69821), (69837, 69837), (917536, 917631)]

def hebrewLetter : CategoryRule where
  categories := []
  exceptions := [
    (1488, 1514), (1519, 1522), (64285, 64285), (64287, 64296), (64298, 64310), (64312, 64316),
    (64318, 64318), (64320, 64321), (64323, 64324), (64326, 64335)]

def katakana : CategoryRule where
  categories := []
  exceptions := [
    (12337, 12341), (12443, 12444), (12448, 12538), (12540, 12543), (12784, 12799), (13008, 13054),
    (13056, 13143), (65382, 65437), (110576, 110579), (110581, 110587), (110589, 110590),
    (110592, 110592), (110880, 110882), (110933, 110933), (110948, 110951)]

def midLetter : CategoryRule where
  categories := []
  exceptions := [
    (58, 58), (183, 183), (903, 903), (1375, 1375), (1524, 1524), (8231, 8231), (65043, 65043),
    (65109, 65109), (65306, 65306)]

def midNumber : CategoryRule where
  categories := []
  exceptions := [
    (44, 44), (59, 59), (894, 894), (1417, 1417), (1548, 1549), (1644, 1644), (2040, 2040),
    (8260, 8260), (65040, 65040), (65044, 65044), (65104, 65104), (65108, 65108), (65292, 65292),
    (65307, 65307)]

def midNumberOrLetter : CategoryRule where
  categories := []
  exceptions := [
    (46, 46), (8216, 8217), (8228, 8228), (65106, 65106), (65287, 65287), (65294, 65294)]

def newline : CategoryRule where
  categories := []
  exceptions := [
    (11, 12), (133, 133), (8232, 8233)]

def numeric : CategoryRule where
  categories := [nd]
  exceptions := [
    (1536, 1541), (1643, 1643), (1757, 1757), (2192, 2193), (2274, 2274), (69821, 69821),
    (69837, 69837)]

def singleQuote : CategoryRule where
  categories := []
  exceptions := [
    (39, 39)]

def space : CategoryRule where
  categories := [zs]
  exceptions := [
    (160, 160), (8199, 8199), (8239, 8239)]

/-- The classes of words with their names, long and short. -/
def all : List (List String × CategoryRule) := [
  (["aletter", "le"], letter),
  (["cr"], carriageReturn),
  (["doublequote", "dq"], doubleQuote),
  (["extend"], extend),
  (["extendnumlet", "ex"], joiner),
  (["format", "fo"], format),
  (["hebrewletter", "hl"], hebrewLetter),
  (["katakana", "ka"], katakana),
  (["lf"], lineFeed),
  (["midletter", "ml"], midLetter),
  (["midnum", "mn"], midNumber),
  (["midnumlet", "mb"], midNumberOrLetter),
  (["newline", "nl"], newline),
  (["numeric", "nu"], numeric),
  (["regionalindicator", "ri"], BinaryProperty.regionalIndicator),
  (["singlequote", "sq"], singleQuote),
  (["wsegspace"], space),
  (["zwj"], zeroWidthJoiner)]

end WordBreak

namespace SentenceBreak

def ambiguousEnd : CategoryRule where
  categories := []
  exceptions := [
    (46, 46), (8228, 8228), (65106, 65106), (65294, 65294)]

def close : CategoryRule where
  categories := []
  exceptions := [
    (34, 34), (39, 41), (91, 91), (93, 93), (123, 123), (125, 125), (171, 171), (187, 187),
    (3898, 3901), (5787, 5788), (8216, 8223), (8249, 8250), (8261, 8262), (8317, 8318),
    (8333, 8334), (8968, 8971), (9001, 9002), (10075, 10080), (10088, 10101), (10181, 10182),
    (10214, 10223), (10627, 10648), (10712, 10715), (10748, 10749), (11776, 11789), (11804, 11805),
    (11808, 11817), (11842, 11842), (11861, 11868), (12296, 12305), (12308, 12315), (12317, 12319),
    (64830, 64831), (65047, 65048), (65077, 65092), (65095, 65096), (65113, 65118), (65288, 65289),
    (65339, 65339), (65341, 65341), (65371, 65371), (65373, 65373), (65375, 65376), (65378, 65379),
    (128630, 128632)]

def extend : CategoryRule where
  categories := [mn, mc, me]
  exceptions := [
    (8204, 8205), (65438, 65439), (917536, 917631)]

def format : CategoryRule where
  categories := [cf]
  exceptions := [
    (1536, 1541), (1757, 1757), (2192, 2193), (2274, 2274), (8204, 8205), (69821, 69821),
    (69837, 69837), (917536, 917631)]

def lower : CategoryRule where
  categories := [ll]
  exceptions := [
    (170, 170), (186, 186), (688, 696), (704, 705), (736, 740), (890, 890), (4304, 4346),
    (4348, 4351), (7468, 7530), (7544, 7544), (7579, 7615), (8305, 8305), (8319, 8319),
    (8336, 8348), (8560, 8575), (9424, 9449), (11388, 11389), (42652, 42653), (42864, 42864),
    (42994, 42996), (43000, 43001), (43868, 43871), (43881, 43881), (67456, 67456), (67459, 67461),
    (67463, 67504), (67506, 67514), (122928, 122989)]

def numeric : CategoryRule where
  categories := [nd]
  exceptions := [
    (1536, 1541), (1643, 1644), (1757, 1757), (2192, 2193), (2274, 2274), (69821, 69821),
    (69837, 69837)]

def letter : CategoryRule where
  categories := [lm, lo, nl]
  exceptions := [
    (170, 170), (186, 186), (688, 696), (704, 705), (736, 740), (890, 890), (1523, 1523),
    (4304, 4346), (4348, 4351), (7312, 7354), (7357, 7359), (7468, 7530), (7544, 7544),
    (7579, 7615), (8305, 8305), (8319, 8319), (8336, 8348), (8544, 8575), (11388, 11389),
    (42652, 42653), (42864, 42864), (42994, 42996), (43000, 43001), (43868, 43871), (43881, 43881),
    (65438, 65439), (67456, 67456), (67459, 67461), (67463, 67504), (67506, 67514),
    (122928, 122989)]

def continuation : CategoryRule where
  categories := []
  exceptions := [
    (44, 45), (58, 59), (894, 894), (1373, 1373), (1548, 1549), (2040, 2040), (6146, 6146),
    (6152, 6152), (8211, 8212), (12289, 12289), (65040, 65041), (65043, 65044), (65073, 65074),
    (65104, 65105), (65108, 65109), (65112, 65112), (65123, 65123), (65292, 65293), (65306, 65307),
    (65380, 65380)]

def finalEnd : CategoryRule where
  categories := []
  exceptions := [
    (33, 33), (63, 63), (1417, 1417), (1565, 1567), (1748, 1748), (1792, 1794), (2041, 2041),
    (2103, 2103), (2105, 2105), (2109, 2110), (2404, 2405), (4170, 4171), (4962, 4962),
    (4967, 4968), (5742, 5742), (5941, 5942), (6100, 6101), (6147, 6147), (6153, 6153),
    (6468, 6469), (6824, 6827), (6990, 6991), (7002, 7003), (7006, 7007), (7037, 7039),
    (7227, 7228), (7294, 7295), (8252, 8253), (8263, 8265), (11513, 11515), (11822, 11822),
    (11836, 11836), (11859, 11860), (12290, 12290), (42239, 42239), (42510, 42511), (42739, 42739),
    (42743, 42743), (43126, 43127), (43214, 43215), (43311, 43311), (43464, 43465), (43613, 43615),
    (43760, 43761), (44011, 44011), (65042, 65042), (65045, 65046), (65110, 65111), (65281, 65281),
    (65311, 65311), (65377, 65377), (68182, 68183), (69461, 69465), (69510, 69513), (69703, 69704),
    (69822, 69825), (69953, 69955), (70085, 70086), (70093, 70093), (70110, 70111), (70200, 70201),
    (70203, 70204), (70313, 70313), (70612, 70613), (70731, 70732), (71106, 71107), (71113, 71127),
    (71233, 71234), (71484, 71486), (72004, 72004), (72006, 72006), (72258, 72259), (72347, 72348),
    (72769, 72770), (73463, 73464), (73539, 73540), (92782, 92783), (92917, 92917), (92983, 92984),
    (92996, 92996), (93550, 93551), (93848, 93848), (113823, 113823), (121480, 121480)]

def separator : CategoryRule where
  categories := []
  exceptions := [
    (133, 133), (8232, 8233)]

def space : CategoryRule where
  categories := [zs]
  exceptions := [
    (9, 9), (11, 12)]

def upper : CategoryRule where
  categories := [lu, lt]
  exceptions := [
    (7312, 7354), (7357, 7359), (8544, 8559), (9398, 9423), (127280, 127305), (127312, 127337),
    (127344, 127369)]

/-- The classes of sentences with their names, long and short. -/
def all : List (List String × CategoryRule) := [
  (["aterm", "at"], ambiguousEnd),
  (["close", "cl"], close),
  (["cr"], carriageReturn),
  (["extend", "ex"], extend),
  (["format", "fo"], format),
  (["lf"], lineFeed),
  (["lower", "lo"], lower),
  (["numeric", "nu"], numeric),
  (["oletter", "le"], letter),
  (["scontinue", "sc"], continuation),
  (["sep", "se"], separator),
  (["sp"], space),
  (["sterm", "st"], finalEnd),
  (["upper", "up"], upper)]

end SentenceBreak

end CatalogAudit.Unicode
