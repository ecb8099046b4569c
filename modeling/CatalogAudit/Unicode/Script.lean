import CatalogAudit.Unicode.Ranges

/-!
# Scripts

Every code point belongs to one script, and some are used with several other
ones. Scripts go by their codes of four letters; `Zzzz` stands for no script at
all. Run number `i` of code points of one script starts at `scriptStarts[i]`,
and its script is `scriptValues[i]`. The data is that of version 16.0 of the
Unicode Character Database.

* `scriptOf` is the script of a code point, `scriptsOf` the scripts that it is
  used with.
* `script?` finds a script by one of its names.
-/

namespace CatalogAudit.Unicode

set_option maxRecDepth 20000

/-- The first code points of the runs, ascending. -/
def scriptStarts : Array Nat := #[
  0, 65, 91, 97, 123, 170, 171, 186, 187, 192, 215, 216, 247, 248, 697, 736, 741, 746, 748, 768,
  880, 884, 885, 888, 890, 894, 895, 896, 900, 901, 902, 903, 904, 907, 908, 909, 910, 930, 931,
  994, 1008, 1024, 1157, 1159, 1328, 1329, 1367, 1369, 1419, 1421, 1424, 1425, 1480, 1488, 1515,
  1519, 1525, 1536, 1541, 1542, 1548, 1549, 1563, 1564, 1567, 1568, 1600, 1601, 1611, 1622, 1648,
  1649, 1757, 1758, 1792, 1806, 1807, 1867, 1869, 1872, 1920, 1970, 1984, 2043, 2045, 2048, 2094,
  2096, 2111, 2112, 2140, 2142, 2143, 2144, 2155, 2160, 2191, 2192, 2194, 2199, 2274, 2275, 2304,
  2385, 2389, 2404, 2406, 2432, 2436, 2437, 2445, 2447, 2449, 2451, 2473, 2474, 2481, 2482, 2483,
  2486, 2490, 2492, 2501, 2503, 2505, 2507, 2511, 2519, 2520, 2524, 2526, 2527, 2532, 2534, 2559,
  2561, 2564, 2565, 2571, 2575, 2577, 2579, 2601, 2602, 2609, 2610, 2612, 2613, 2615, 2616, 2618,
  2620, 2621, 2622, 2627, 2631, 2633, 2635, 2638, 2641, 2642, 2649, 2653, 2654, 2655, 2662, 2679,
  2689, 2692, 2693, 2702, 2703, 2706, 2707, 2729, 2730, 2737, 2738, 2740, 2741, 2746, 2748, 2758,
  2759, 2762, 2763, 2766, 2768, 2769, 2784, 2788, 2790, 2802, 2809, 2816, 2817, 2820, 2821, 2829,
  2831, 2833, 2835, 2857, 2858, 2865, 2866, 2868, 2869, 2874, 2876, 2885, 2887, 2889, 2891, 2894,
  2901, 2904, 2908, 2910, 2911, 2916, 2918, 2936, 2946, 2948, 2949, 2955, 2958, 2961, 2962, 2966,
  2969, 2971, 2972, 2973, 2974, 2976, 2979, 2981, 2984, 2987, 2990, 3002, 3006, 3011, 3014, 3017,
  3018, 3022, 3024, 3025, 3031, 3032, 3046, 3067, 3072, 3085, 3086, 3089, 3090, 3113, 3114, 3130,
  3132, 3141, 3142, 3145, 3146, 3150, 3157, 3159, 3160, 3163, 3165, 3166, 3168, 3172, 3174, 3184,
  3191, 3200, 3213, 3214, 3217, 3218, 3241, 3242, 3252, 3253, 3258, 3260, 3269, 3270, 3273, 3274,
  3278, 3285, 3287, 3293, 3295, 3296, 3300, 3302, 3312, 3313, 3316, 3328, 3341, 3342, 3345, 3346,
  3397, 3398, 3401, 3402, 3408, 3412, 3428, 3430, 3456, 3457, 3460, 3461, 3479, 3482, 3506, 3507,
  3516, 3517, 3518, 3520, 3527, 3530, 3531, 3535, 3541, 3542, 3543, 3544, 3552, 3558, 3568, 3570,
  3573, 3585, 3643, 3647, 3648, 3676, 3713, 3715, 3716, 3717, 3718, 3723, 3724, 3748, 3749, 3750,
  3751, 3774, 3776, 3781, 3782, 3783, 3784, 3791, 3792, 3802, 3804, 3808, 3840, 3912, 3913, 3949,
  3953, 3992, 3993, 4029, 4030, 4045, 4046, 4053, 4057, 4059, 4096, 4256, 4294, 4295, 4296, 4301,
  4302, 4304, 4347, 4348, 4352, 4608, 4681, 4682, 4686, 4688, 4695, 4696, 4697, 4698, 4702, 4704,
  4745, 4746, 4750, 4752, 4785, 4786, 4790, 4792, 4799, 4800, 4801, 4802, 4806, 4808, 4823, 4824,
  4881, 4882, 4886, 4888, 4955, 4957, 4989, 4992, 5018, 5024, 5110, 5112, 5118, 5120, 5760, 5789,
  5792, 5867, 5870, 5881, 5888, 5910, 5919, 5920, 5941, 5943, 5952, 5972, 5984, 5997, 5998, 6001,
  6002, 6004, 6016, 6110, 6112, 6122, 6128, 6138, 6144, 6146, 6148, 6149, 6150, 6170, 6176, 6265,
  6272, 6315, 6320, 6390, 6400, 6431, 6432, 6444, 6448, 6460, 6464, 6465, 6468, 6480, 6510, 6512,
  6517, 6528, 6572, 6576, 6602, 6608, 6619, 6622, 6624, 6656, 6684, 6686, 6688, 6751, 6752, 6781,
  6783, 6794, 6800, 6810, 6816, 6830, 6832, 6863, 6912, 6989, 6990, 7040, 7104, 7156, 7164, 7168,
  7224, 7227, 7242, 7245, 7248, 7296, 7307, 7312, 7355, 7357, 7360, 7368, 7376, 7379, 7380, 7393,
  7394, 7401, 7405, 7406, 7412, 7413, 7416, 7418, 7419, 7424, 7462, 7467, 7468, 7517, 7522, 7526,
  7531, 7544, 7545, 7615, 7616, 7680, 7936, 7958, 7960, 7966, 7968, 8006, 8008, 8014, 8016, 8024,
  8025, 8026, 8027, 8028, 8029, 8030, 8031, 8062, 8064, 8117, 8118, 8133, 8134, 8148, 8150, 8156,
  8157, 8176, 8178, 8181, 8182, 8191, 8192, 8204, 8206, 8293, 8294, 8305, 8306, 8308, 8319, 8320,
  8335, 8336, 8349, 8352, 8385, 8400, 8433, 8448, 8486, 8487, 8490, 8492, 8498, 8499, 8526, 8527,
  8544, 8585, 8588, 8592, 9258, 9280, 9291, 9312, 10240, 10496, 11124, 11126, 11158, 11159, 11264,
  11360, 11392, 11508, 11513, 11520, 11558, 11559, 11560, 11565, 11566, 11568, 11624, 11631,
  11633, 11647, 11648, 11671, 11680, 11687, 11688, 11695, 11696, 11703, 11704, 11711, 11712,
  11719, 11720, 11727, 11728, 11735, 11736, 11743, 11744, 11776, 11870, 11904, 11930, 11931,
  12020, 12032, 12246, 12272, 12293, 12294, 12295, 12296, 12321, 12330, 12334, 12336, 12344,
  12348, 12352, 12353, 12439, 12441, 12443, 12445, 12448, 12449, 12539, 12541, 12544, 12549,
  12592, 12593, 12687, 12688, 12704, 12736, 12774, 12783, 12784, 12800, 12831, 12832, 12896,
  12927, 13008, 13055, 13056, 13144, 13312, 19904, 19968, 40960, 42125, 42128, 42183, 42192,
  42240, 42540, 42560, 42656, 42744, 42752, 42786, 42888, 42891, 42958, 42960, 42962, 42963,
  42964, 42965, 42973, 42994, 43008, 43053, 43056, 43066, 43072, 43128, 43136, 43206, 43214,
  43226, 43232, 43264, 43310, 43311, 43312, 43348, 43359, 43360, 43389, 43392, 43470, 43471,
  43472, 43482, 43486, 43488, 43519, 43520, 43575, 43584, 43598, 43600, 43610, 43612, 43616,
  43648, 43715, 43739, 43744, 43767, 43777, 43783, 43785, 43791, 43793, 43799, 43808, 43815,
  43816, 43823, 43824, 43867, 43868, 43877, 43878, 43882, 43884, 43888, 43968, 44014, 44016,
  44026, 44032, 55204, 55216, 55239, 55243, 55292, 63744, 64110, 64112, 64218, 64256, 64263,
  64275, 64280, 64285, 64311, 64312, 64317, 64318, 64319, 64320, 64322, 64323, 64325, 64326,
  64336, 64451, 64467, 64830, 64832, 64912, 64914, 64968, 64975, 64976, 65008, 65024, 65040,
  65050, 65056, 65070, 65072, 65107, 65108, 65127, 65128, 65132, 65136, 65141, 65142, 65277,
  65279, 65280, 65281, 65313, 65339, 65345, 65371, 65382, 65392, 65393, 65438, 65440, 65471,
  65474, 65480, 65482, 65488, 65490, 65496, 65498, 65501, 65504, 65511, 65512, 65519, 65529,
  65534, 65536, 65548, 65549, 65575, 65576, 65595, 65596, 65598, 65599, 65614, 65616, 65630,
  65664, 65787, 65792, 65795, 65799, 65844, 65847, 65856, 65935, 65936, 65949, 65952, 65953,
  66000, 66045, 66046, 66176, 66205, 66208, 66257, 66272, 66273, 66300, 66304, 66340, 66349,
  66352, 66379, 66384, 66427, 66432, 66462, 66463, 66464, 66500, 66504, 66518, 66560, 66640,
  66688, 66718, 66720, 66730, 66736, 66772, 66776, 66812, 66816, 66856, 66864, 66916, 66927,
  66928, 66939, 66940, 66955, 66956, 66963, 66964, 66966, 66967, 66978, 66979, 66994, 66995,
  67002, 67003, 67005, 67008, 67060, 67072, 67383, 67392, 67414, 67424, 67432, 67456, 67462,
  67463, 67505, 67506, 67515, 67584, 67590, 67592, 67593, 67594, 67638, 67639, 67641, 67644,
  67645, 67647, 67648, 67670, 67671, 67680, 67712, 67743, 67751, 67760, 67808, 67827, 67828,
  67830, 67835, 67840, 67868, 67871, 67872, 67898, 67903, 67904, 67968, 68000, 68024, 68028,
  68048, 68050, 68096, 68100, 68101, 68103, 68108, 68116, 68117, 68120, 68121, 68150, 68152,
  68155, 68159, 68169, 68176, 68185, 68192, 68224, 68256, 68288, 68327, 68331, 68343, 68352,
  68406, 68409, 68416, 68438, 68440, 68448, 68467, 68472, 68480, 68498, 68505, 68509, 68521,
  68528, 68608, 68681, 68736, 68787, 68800, 68851, 68858, 68864, 68904, 68912, 68922, 68928,
  68966, 68969, 68998, 69006, 69008, 69216, 69247, 69248, 69290, 69291, 69294, 69296, 69298,
  69314, 69317, 69372, 69376, 69416, 69424, 69466, 69488, 69514, 69552, 69580, 69600, 69623,
  69632, 69710, 69714, 69750, 69759, 69760, 69827, 69837, 69838, 69840, 69865, 69872, 69882,
  69888, 69941, 69942, 69960, 69968, 70007, 70016, 70112, 70113, 70133, 70144, 70162, 70163,
  70210, 70272, 70279, 70280, 70281, 70282, 70286, 70287, 70302, 70303, 70314, 70320, 70379,
  70384, 70394, 70400, 70404, 70405, 70413, 70415, 70417, 70419, 70441, 70442, 70449, 70450,
  70452, 70453, 70458, 70459, 70460, 70469, 70471, 70473, 70475, 70478, 70480, 70481, 70487,
  70488, 70493, 70500, 70502, 70509, 70512, 70517, 70528, 70538, 70539, 70540, 70542, 70543,
  70544, 70582, 70583, 70593, 70594, 70595, 70597, 70598, 70599, 70603, 70604, 70614, 70615,
  70617, 70625, 70627, 70656, 70748, 70749, 70754, 70784, 70856, 70864, 70874, 71040, 71094,
  71096, 71134, 71168, 71237, 71248, 71258, 71264, 71277, 71296, 71354, 71360, 71370, 71376,
  71396, 71424, 71451, 71453, 71468, 71472, 71495, 71680, 71740, 71840, 71923, 71935, 71936,
  71943, 71945, 71946, 71948, 71956, 71957, 71959, 71960, 71990, 71991, 71993, 71995, 72007,
  72016, 72026, 72096, 72104, 72106, 72152, 72154, 72165, 72192, 72264, 72272, 72355, 72368,
  72384, 72441, 72448, 72458, 72640, 72674, 72688, 72698, 72704, 72713, 72714, 72759, 72760,
  72774, 72784, 72813, 72816, 72848, 72850, 72872, 72873, 72887, 72960, 72967, 72968, 72970,
  72971, 73015, 73018, 73019, 73020, 73022, 73023, 73032, 73040, 73050, 73056, 73062, 73063,
  73065, 73066, 73103, 73104, 73106, 73107, 73113, 73120, 73130, 73440, 73465, 73472, 73489,
  73490, 73531, 73534, 73563, 73648, 73649, 73664, 73714, 73727, 73728, 74650, 74752, 74863,
  74864, 74869, 74880, 75076, 77712, 77811, 77824, 78934, 78944, 82939, 82944, 83527, 90368,
  90426, 92160, 92729, 92736, 92767, 92768, 92778, 92782, 92784, 92863, 92864, 92874, 92880,
  92910, 92912, 92918, 92928, 92998, 93008, 93018, 93019, 93026, 93027, 93048, 93053, 93072,
  93504, 93562, 93760, 93851, 93952, 94027, 94031, 94088, 94095, 94112, 94176, 94177, 94178,
  94180, 94181, 94192, 94194, 94208, 100344, 100352, 101120, 101590, 101631, 101632, 101641,
  110576, 110580, 110581, 110588, 110589, 110591, 110592, 110593, 110880, 110883, 110898, 110899,
  110928, 110931, 110933, 110934, 110948, 110952, 110960, 111356, 113664, 113771, 113776, 113789,
  113792, 113801, 113808, 113818, 113820, 113824, 113828, 117760, 118010, 118016, 118452, 118528,
  118574, 118576, 118599, 118608, 118724, 118784, 119030, 119040, 119079, 119081, 119143, 119146,
  119163, 119171, 119173, 119180, 119210, 119214, 119275, 119296, 119366, 119488, 119508, 119520,
  119540, 119552, 119639, 119648, 119673, 119808, 119893, 119894, 119965, 119966, 119968, 119970,
  119971, 119973, 119975, 119977, 119981, 119982, 119994, 119995, 119996, 119997, 120004, 120005,
  120070, 120071, 120075, 120077, 120085, 120086, 120093, 120094, 120122, 120123, 120127, 120128,
  120133, 120134, 120135, 120138, 120145, 120146, 120486, 120488, 120780, 120782, 120832, 121484,
  121499, 121504, 121505, 121520, 122624, 122655, 122661, 122667, 122880, 122887, 122888, 122905,
  122907, 122914, 122915, 122917, 122918, 122923, 122928, 122990, 123023, 123024, 123136, 123181,
  123184, 123198, 123200, 123210, 123214, 123216, 123536, 123567, 123584, 123642, 123647, 123648,
  124112, 124154, 124368, 124411, 124415, 124416, 124896, 124903, 124904, 124908, 124909, 124911,
  124912, 124927, 124928, 125125, 125127, 125143, 125184, 125260, 125264, 125274, 125278, 125280,
  126065, 126133, 126209, 126270, 126464, 126468, 126469, 126496, 126497, 126499, 126500, 126501,
  126503, 126504, 126505, 126515, 126516, 126520, 126521, 126522, 126523, 126524, 126530, 126531,
  126535, 126536, 126537, 126538, 126539, 126540, 126541, 126544, 126545, 126547, 126548, 126549,
  126551, 126552, 126553, 126554, 126555, 126556, 126557, 126558, 126559, 126560, 126561, 126563,
  126564, 126565, 126567, 126571, 126572, 126579, 126580, 126584, 126585, 126589, 126590, 126591,
  126592, 126602, 126603, 126620, 126625, 126628, 126629, 126634, 126635, 126652, 126704, 126706,
  126976, 127020, 127024, 127124, 127136, 127151, 127153, 127168, 127169, 127184, 127185, 127222,
  127232, 127406, 127462, 127488, 127489, 127491, 127504, 127548, 127552, 127561, 127568, 127570,
  127584, 127590, 127744, 128728, 128732, 128749, 128752, 128765, 128768, 128887, 128891, 128986,
  128992, 129004, 129008, 129009, 129024, 129036, 129040, 129096, 129104, 129114, 129120, 129160,
  129168, 129198, 129200, 129212, 129216, 129218, 129280, 129620, 129632, 129646, 129648, 129661,
  129664, 129674, 129679, 129735, 129742, 129757, 129759, 129770, 129776, 129785, 129792, 129939,
  129940, 130042, 131072, 173792, 173824, 177978, 177984, 178206, 178208, 183970, 183984, 191457,
  191472, 192094, 194560, 195102, 196608, 201547, 201552, 205744, 917505, 917506, 917536, 917632,
  917760, 918000]

/-- The scripts of the runs. -/
def scriptValues : Array String := #[
  "Zyyy", "Latn", "Zyyy", "Latn", "Zyyy", "Latn", "Zyyy", "Latn", "Zyyy", "Latn", "Zyyy", "Latn",
  "Zyyy", "Latn", "Zyyy", "Latn", "Zyyy", "Bopo", "Zyyy", "Zinh", "Grek", "Zyyy", "Grek", "Zzzz",
  "Grek", "Zyyy", "Grek", "Zzzz", "Grek", "Zyyy", "Grek", "Zyyy", "Grek", "Zzzz", "Grek", "Zzzz",
  "Grek", "Zzzz", "Grek", "Copt", "Grek", "Cyrl", "Zinh", "Cyrl", "Zzzz", "Armn", "Zzzz", "Armn",
  "Zzzz", "Armn", "Zzzz", "Hebr", "Zzzz", "Hebr", "Zzzz", "Hebr", "Zzzz", "Arab", "Zyyy", "Arab",
  "Zyyy", "Arab", "Zyyy", "Arab", "Zyyy", "Arab", "Zyyy", "Arab", "Zinh", "Arab", "Zinh", "Arab",
  "Zyyy", "Arab", "Syrc", "Zzzz", "Syrc", "Zzzz", "Syrc", "Arab", "Thaa", "Zzzz", "Nkoo", "Zzzz",
  "Nkoo", "Samr", "Zzzz", "Samr", "Zzzz", "Mand", "Zzzz", "Mand", "Zzzz", "Syrc", "Zzzz", "Arab",
  "Zzzz", "Arab", "Zzzz", "Arab", "Zyyy", "Arab", "Deva", "Zinh", "Deva", "Zyyy", "Deva", "Beng",
  "Zzzz", "Beng", "Zzzz", "Beng", "Zzzz", "Beng", "Zzzz", "Beng", "Zzzz", "Beng", "Zzzz", "Beng",
  "Zzzz", "Beng", "Zzzz", "Beng", "Zzzz", "Beng", "Zzzz", "Beng", "Zzzz", "Beng", "Zzzz", "Beng",
  "Zzzz", "Beng", "Zzzz", "Guru", "Zzzz", "Guru", "Zzzz", "Guru", "Zzzz", "Guru", "Zzzz", "Guru",
  "Zzzz", "Guru", "Zzzz", "Guru", "Zzzz", "Guru", "Zzzz", "Guru", "Zzzz", "Guru", "Zzzz", "Guru",
  "Zzzz", "Guru", "Zzzz", "Guru", "Zzzz", "Guru", "Zzzz", "Guru", "Zzzz", "Guru", "Zzzz", "Gujr",
  "Zzzz", "Gujr", "Zzzz", "Gujr", "Zzzz", "Gujr", "Zzzz", "Gujr", "Zzzz", "Gujr", "Zzzz", "Gujr",
  "Zzzz", "Gujr", "Zzzz", "Gujr", "Zzzz", "Gujr", "Zzzz", "Gujr", "Zzzz", "Gujr", "Zzzz", "Gujr",
  "Zzzz", "Gujr", "Zzzz", "Orya", "Zzzz", "Orya", "Zzzz", "Orya", "Zzzz", "Orya", "Zzzz", "Orya",
  "Zzzz", "Orya", "Zzzz", "Orya", "Zzzz", "Orya", "Zzzz", "Orya", "Zzzz", "Orya", "Zzzz", "Orya",
  "Zzzz", "Orya", "Zzzz", "Orya", "Zzzz", "Orya", "Zzzz", "Taml", "Zzzz", "Taml", "Zzzz", "Taml",
  "Zzzz", "Taml", "Zzzz", "Taml", "Zzzz", "Taml", "Zzzz", "Taml", "Zzzz", "Taml", "Zzzz", "Taml",
  "Zzzz", "Taml", "Zzzz", "Taml", "Zzzz", "Taml", "Zzzz", "Taml", "Zzzz", "Taml", "Zzzz", "Taml",
  "Zzzz", "Taml", "Zzzz", "Telu", "Zzzz", "Telu", "Zzzz", "Telu", "Zzzz", "Telu", "Zzzz", "Telu",
  "Zzzz", "Telu", "Zzzz", "Telu", "Zzzz", "Telu", "Zzzz", "Telu", "Zzzz", "Telu", "Zzzz", "Telu",
  "Zzzz", "Telu", "Zzzz", "Telu", "Knda", "Zzzz", "Knda", "Zzzz", "Knda", "Zzzz", "Knda", "Zzzz",
  "Knda", "Zzzz", "Knda", "Zzzz", "Knda", "Zzzz", "Knda", "Zzzz", "Knda", "Zzzz", "Knda", "Zzzz",
  "Knda", "Zzzz", "Knda", "Zzzz", "Knda", "Zzzz", "Mlym", "Zzzz", "Mlym", "Zzzz", "Mlym", "Zzzz",
  "Mlym", "Zzzz", "Mlym", "Zzzz", "Mlym", "Zzzz", "Mlym", "Zzzz", "Sinh", "Zzzz", "Sinh", "Zzzz",
  "Sinh", "Zzzz", "Sinh", "Zzzz", "Sinh", "Zzzz", "Sinh", "Zzzz", "Sinh", "Zzzz", "Sinh", "Zzzz",
  "Sinh", "Zzzz", "Sinh", "Zzzz", "Sinh", "Zzzz", "Sinh", "Zzzz", "Thai", "Zzzz", "Zyyy", "Thai",
  "Zzzz", "Laoo", "Zzzz", "Laoo", "Zzzz", "Laoo", "Zzzz", "Laoo", "Zzzz", "Laoo", "Zzzz", "Laoo",
  "Zzzz", "Laoo", "Zzzz", "Laoo", "Zzzz", "Laoo", "Zzzz", "Laoo", "Zzzz", "Laoo", "Zzzz", "Tibt",
  "Zzzz", "Tibt", "Zzzz", "Tibt", "Zzzz", "Tibt", "Zzzz", "Tibt", "Zzzz", "Tibt", "Zyyy", "Tibt",
  "Zzzz", "Mymr", "Geor", "Zzzz", "Geor", "Zzzz", "Geor", "Zzzz", "Geor", "Zyyy", "Geor", "Hang",
  "Ethi", "Zzzz", "Ethi", "Zzzz", "Ethi", "Zzzz", "Ethi", "Zzzz", "Ethi", "Zzzz", "Ethi", "Zzzz",
  "Ethi", "Zzzz", "Ethi", "Zzzz", "Ethi", "Zzzz", "Ethi", "Zzzz", "Ethi", "Zzzz", "Ethi", "Zzzz",
  "Ethi", "Zzzz", "Ethi", "Zzzz", "Ethi", "Zzzz", "Ethi", "Zzzz", "Ethi", "Zzzz", "Ethi", "Zzzz",
  "Cher", "Zzzz", "Cher", "Zzzz", "Cans", "Ogam", "Zzzz", "Runr", "Zyyy", "Runr", "Zzzz", "Tglg",
  "Zzzz", "Tglg", "Hano", "Zyyy", "Zzzz", "Buhd", "Zzzz", "Tagb", "Zzzz", "Tagb", "Zzzz", "Tagb",
  "Zzzz", "Khmr", "Zzzz", "Khmr", "Zzzz", "Khmr", "Zzzz", "Mong", "Zyyy", "Mong", "Zyyy", "Mong",
  "Zzzz", "Mong", "Zzzz", "Mong", "Zzzz", "Cans", "Zzzz", "Limb", "Zzzz", "Limb", "Zzzz", "Limb",
  "Zzzz", "Limb", "Zzzz", "Limb", "Tale", "Zzzz", "Tale", "Zzzz", "Talu", "Zzzz", "Talu", "Zzzz",
  "Talu", "Zzzz", "Talu", "Khmr", "Bugi", "Zzzz", "Bugi", "Lana", "Zzzz", "Lana", "Zzzz", "Lana",
  "Zzzz", "Lana", "Zzzz", "Lana", "Zzzz", "Zinh", "Zzzz", "Bali", "Zzzz", "Bali", "Sund", "Batk",
  "Zzzz", "Batk", "Lepc", "Zzzz", "Lepc", "Zzzz", "Lepc", "Olck", "Cyrl", "Zzzz", "Geor", "Zzzz",
  "Geor", "Sund", "Zzzz", "Zinh", "Zyyy", "Zinh", "Zyyy", "Zinh", "Zyyy", "Zinh", "Zyyy", "Zinh",
  "Zyyy", "Zinh", "Zyyy", "Zzzz", "Latn", "Grek", "Cyrl", "Latn", "Grek", "Latn", "Grek", "Latn",
  "Cyrl", "Latn", "Grek", "Zinh", "Latn", "Grek", "Zzzz", "Grek", "Zzzz", "Grek", "Zzzz", "Grek",
  "Zzzz", "Grek", "Zzzz", "Grek", "Zzzz", "Grek", "Zzzz", "Grek", "Zzzz", "Grek", "Zzzz", "Grek",
  "Zzzz", "Grek", "Zzzz", "Grek", "Zzzz", "Grek", "Zzzz", "Grek", "Zzzz", "Grek", "Zzzz", "Grek",
  "Zzzz", "Zyyy", "Zinh", "Zyyy", "Zzzz", "Zyyy", "Latn", "Zzzz", "Zyyy", "Latn", "Zyyy", "Zzzz",
  "Latn", "Zzzz", "Zyyy", "Zzzz", "Zinh", "Zzzz", "Zyyy", "Grek", "Zyyy", "Latn", "Zyyy", "Latn",
  "Zyyy", "Latn", "Zyyy", "Latn", "Zyyy", "Zzzz", "Zyyy", "Zzzz", "Zyyy", "Zzzz", "Zyyy", "Brai",
  "Zyyy", "Zzzz", "Zyyy", "Zzzz", "Zyyy", "Glag", "Latn", "Copt", "Zzzz", "Copt", "Geor", "Zzzz",
  "Geor", "Zzzz", "Geor", "Zzzz", "Tfng", "Zzzz", "Tfng", "Zzzz", "Tfng", "Ethi", "Zzzz", "Ethi",
  "Zzzz", "Ethi", "Zzzz", "Ethi", "Zzzz", "Ethi", "Zzzz", "Ethi", "Zzzz", "Ethi", "Zzzz", "Ethi",
  "Zzzz", "Ethi", "Zzzz", "Cyrl", "Zyyy", "Zzzz", "Hani", "Zzzz", "Hani", "Zzzz", "Hani", "Zzzz",
  "Zyyy", "Hani", "Zyyy", "Hani", "Zyyy", "Hani", "Zinh", "Hang", "Zyyy", "Hani", "Zyyy", "Zzzz",
  "Hira", "Zzzz", "Zinh", "Zyyy", "Hira", "Zyyy", "Kana", "Zyyy", "Kana", "Zzzz", "Bopo", "Zzzz",
  "Hang", "Zzzz", "Zyyy", "Bopo", "Zyyy", "Zzzz", "Zyyy", "Kana", "Hang", "Zzzz", "Zyyy", "Hang",
  "Zyyy", "Kana", "Zyyy", "Kana", "Zyyy", "Hani", "Zyyy", "Hani", "Yiii", "Zzzz", "Yiii", "Zzzz",
  "Lisu", "Vaii", "Zzzz", "Cyrl", "Bamu", "Zzzz", "Zyyy", "Latn", "Zyyy", "Latn", "Zzzz", "Latn",
  "Zzzz", "Latn", "Zzzz", "Latn", "Zzzz", "Latn", "Sylo", "Zzzz", "Zyyy", "Zzzz", "Phag", "Zzzz",
  "Saur", "Zzzz", "Saur", "Zzzz", "Deva", "Kali", "Zyyy", "Kali", "Rjng", "Zzzz", "Rjng", "Hang",
  "Zzzz", "Java", "Zzzz", "Zyyy", "Java", "Zzzz", "Java", "Mymr", "Zzzz", "Cham", "Zzzz", "Cham",
  "Zzzz", "Cham", "Zzzz", "Cham", "Mymr", "Tavt", "Zzzz", "Tavt", "Mtei", "Zzzz", "Ethi", "Zzzz",
  "Ethi", "Zzzz", "Ethi", "Zzzz", "Ethi", "Zzzz", "Ethi", "Zzzz", "Latn", "Zyyy", "Latn", "Grek",
  "Latn", "Zyyy", "Zzzz", "Cher", "Mtei", "Zzzz", "Mtei", "Zzzz", "Hang", "Zzzz", "Hang", "Zzzz",
  "Hang", "Zzzz", "Hani", "Zzzz", "Hani", "Zzzz", "Latn", "Zzzz", "Armn", "Zzzz", "Hebr", "Zzzz",
  "Hebr", "Zzzz", "Hebr", "Zzzz", "Hebr", "Zzzz", "Hebr", "Zzzz", "Hebr", "Arab", "Zzzz", "Arab",
  "Zyyy", "Arab", "Zzzz", "Arab", "Zzzz", "Arab", "Zzzz", "Arab", "Zinh", "Zyyy", "Zzzz", "Zinh",
  "Cyrl", "Zyyy", "Zzzz", "Zyyy", "Zzzz", "Zyyy", "Zzzz", "Arab", "Zzzz", "Arab", "Zzzz", "Zyyy",
  "Zzzz", "Zyyy", "Latn", "Zyyy", "Latn", "Zyyy", "Kana", "Zyyy", "Kana", "Zyyy", "Hang", "Zzzz",
  "Hang", "Zzzz", "Hang", "Zzzz", "Hang", "Zzzz", "Hang", "Zzzz", "Zyyy", "Zzzz", "Zyyy", "Zzzz",
  "Zyyy", "Zzzz", "Linb", "Zzzz", "Linb", "Zzzz", "Linb", "Zzzz", "Linb", "Zzzz", "Linb", "Zzzz",
  "Linb", "Zzzz", "Linb", "Zzzz", "Zyyy", "Zzzz", "Zyyy", "Zzzz", "Zyyy", "Grek", "Zzzz", "Zyyy",
  "Zzzz", "Grek", "Zzzz", "Zyyy", "Zinh", "Zzzz", "Lyci", "Zzzz", "Cari", "Zzzz", "Zinh", "Zyyy",
  "Zzzz", "Ital", "Zzzz", "Ital", "Goth", "Zzzz", "Perm", "Zzzz", "Ugar", "Zzzz", "Ugar", "Xpeo",
  "Zzzz", "Xpeo", "Zzzz", "Dsrt", "Shaw", "Osma", "Zzzz", "Osma", "Zzzz", "Osge", "Zzzz", "Osge",
  "Zzzz", "Elba", "Zzzz", "Aghb", "Zzzz", "Aghb", "Vith", "Zzzz", "Vith", "Zzzz", "Vith", "Zzzz",
  "Vith", "Zzzz", "Vith", "Zzzz", "Vith", "Zzzz", "Vith", "Zzzz", "Vith", "Zzzz", "Todr", "Zzzz",
  "Lina", "Zzzz", "Lina", "Zzzz", "Lina", "Zzzz", "Latn", "Zzzz", "Latn", "Zzzz", "Latn", "Zzzz",
  "Cprt", "Zzzz", "Cprt", "Zzzz", "Cprt", "Zzzz", "Cprt", "Zzzz", "Cprt", "Zzzz", "Cprt", "Armi",
  "Zzzz", "Armi", "Palm", "Nbat", "Zzzz", "Nbat", "Zzzz", "Hatr", "Zzzz", "Hatr", "Zzzz", "Hatr",
  "Phnx", "Zzzz", "Phnx", "Lydi", "Zzzz", "Lydi", "Zzzz", "Mero", "Merc", "Zzzz", "Merc", "Zzzz",
  "Merc", "Khar", "Zzzz", "Khar", "Zzzz", "Khar", "Zzzz", "Khar", "Zzzz", "Khar", "Zzzz", "Khar",
  "Zzzz", "Khar", "Zzzz", "Khar", "Zzzz", "Sarb", "Narb", "Zzzz", "Mani", "Zzzz", "Mani", "Zzzz",
  "Avst", "Zzzz", "Avst", "Prti", "Zzzz", "Prti", "Phli", "Zzzz", "Phli", "Phlp", "Zzzz", "Phlp",
  "Zzzz", "Phlp", "Zzzz", "Orkh", "Zzzz", "Hung", "Zzzz", "Hung", "Zzzz", "Hung", "Rohg", "Zzzz",
  "Rohg", "Zzzz", "Gara", "Zzzz", "Gara", "Zzzz", "Gara", "Zzzz", "Arab", "Zzzz", "Yezi", "Zzzz",
  "Yezi", "Zzzz", "Yezi", "Zzzz", "Arab", "Zzzz", "Arab", "Sogo", "Zzzz", "Sogd", "Zzzz", "Ougr",
  "Zzzz", "Chrs", "Zzzz", "Elym", "Zzzz", "Brah", "Zzzz", "Brah", "Zzzz", "Brah", "Kthi", "Zzzz",
  "Kthi", "Zzzz", "Sora", "Zzzz", "Sora", "Zzzz", "Cakm", "Zzzz", "Cakm", "Zzzz", "Mahj", "Zzzz",
  "Shrd", "Zzzz", "Sinh", "Zzzz", "Khoj", "Zzzz", "Khoj", "Zzzz", "Mult", "Zzzz", "Mult", "Zzzz",
  "Mult", "Zzzz", "Mult", "Zzzz", "Mult", "Zzzz", "Sind", "Zzzz", "Sind", "Zzzz", "Gran", "Zzzz",
  "Gran", "Zzzz", "Gran", "Zzzz", "Gran", "Zzzz", "Gran", "Zzzz", "Gran", "Zzzz", "Gran", "Zzzz",
  "Zinh", "Gran", "Zzzz", "Gran", "Zzzz", "Gran", "Zzzz", "Gran", "Zzzz", "Gran", "Zzzz", "Gran",
  "Zzzz", "Gran", "Zzzz", "Gran", "Zzzz", "Tutg", "Zzzz", "Tutg", "Zzzz", "Tutg", "Zzzz", "Tutg",
  "Zzzz", "Tutg", "Zzzz", "Tutg", "Zzzz", "Tutg", "Zzzz", "Tutg", "Zzzz", "Tutg", "Zzzz", "Tutg",
  "Zzzz", "Tutg", "Zzzz", "Newa", "Zzzz", "Newa", "Zzzz", "Tirh", "Zzzz", "Tirh", "Zzzz", "Sidd",
  "Zzzz", "Sidd", "Zzzz", "Modi", "Zzzz", "Modi", "Zzzz", "Mong", "Zzzz", "Takr", "Zzzz", "Takr",
  "Zzzz", "Mymr", "Zzzz", "Ahom", "Zzzz", "Ahom", "Zzzz", "Ahom", "Zzzz", "Dogr", "Zzzz", "Wara",
  "Zzzz", "Wara", "Diak", "Zzzz", "Diak", "Zzzz", "Diak", "Zzzz", "Diak", "Zzzz", "Diak", "Zzzz",
  "Diak", "Zzzz", "Diak", "Zzzz", "Diak", "Zzzz", "Nand", "Zzzz", "Nand", "Zzzz", "Nand", "Zzzz",
  "Zanb", "Zzzz", "Soyo", "Zzzz", "Cans", "Pauc", "Zzzz", "Deva", "Zzzz", "Sunu", "Zzzz", "Sunu",
  "Zzzz", "Bhks", "Zzzz", "Bhks", "Zzzz", "Bhks", "Zzzz", "Bhks", "Zzzz", "Marc", "Zzzz", "Marc",
  "Zzzz", "Marc", "Zzzz", "Gonm", "Zzzz", "Gonm", "Zzzz", "Gonm", "Zzzz", "Gonm", "Zzzz", "Gonm",
  "Zzzz", "Gonm", "Zzzz", "Gonm", "Zzzz", "Gong", "Zzzz", "Gong", "Zzzz", "Gong", "Zzzz", "Gong",
  "Zzzz", "Gong", "Zzzz", "Gong", "Zzzz", "Maka", "Zzzz", "Kawi", "Zzzz", "Kawi", "Zzzz", "Kawi",
  "Zzzz", "Lisu", "Zzzz", "Taml", "Zzzz", "Taml", "Xsux", "Zzzz", "Xsux", "Zzzz", "Xsux", "Zzzz",
  "Xsux", "Zzzz", "Cpmn", "Zzzz", "Egyp", "Zzzz", "Egyp", "Zzzz", "Hluw", "Zzzz", "Gukh", "Zzzz",
  "Bamu", "Zzzz", "Mroo", "Zzzz", "Mroo", "Zzzz", "Mroo", "Tnsa", "Zzzz", "Tnsa", "Zzzz", "Bass",
  "Zzzz", "Bass", "Zzzz", "Hmng", "Zzzz", "Hmng", "Zzzz", "Hmng", "Zzzz", "Hmng", "Zzzz", "Hmng",
  "Zzzz", "Krai", "Zzzz", "Medf", "Zzzz", "Plrd", "Zzzz", "Plrd", "Zzzz", "Plrd", "Zzzz", "Tang",
  "Nshu", "Hani", "Kits", "Zzzz", "Hani", "Zzzz", "Tang", "Zzzz", "Tang", "Kits", "Zzzz", "Kits",
  "Tang", "Zzzz", "Kana", "Zzzz", "Kana", "Zzzz", "Kana", "Zzzz", "Kana", "Hira", "Kana", "Zzzz",
  "Hira", "Zzzz", "Hira", "Zzzz", "Kana", "Zzzz", "Kana", "Zzzz", "Nshu", "Zzzz", "Dupl", "Zzzz",
  "Dupl", "Zzzz", "Dupl", "Zzzz", "Dupl", "Zzzz", "Dupl", "Zyyy", "Zzzz", "Zyyy", "Zzzz", "Zyyy",
  "Zzzz", "Zinh", "Zzzz", "Zinh", "Zzzz", "Zyyy", "Zzzz", "Zyyy", "Zzzz", "Zyyy", "Zzzz", "Zyyy",
  "Zinh", "Zyyy", "Zinh", "Zyyy", "Zinh", "Zyyy", "Zinh", "Zyyy", "Zzzz", "Grek", "Zzzz", "Zyyy",
  "Zzzz", "Zyyy", "Zzzz", "Zyyy", "Zzzz", "Zyyy", "Zzzz", "Zyyy", "Zzzz", "Zyyy", "Zzzz", "Zyyy",
  "Zzzz", "Zyyy", "Zzzz", "Zyyy", "Zzzz", "Zyyy", "Zzzz", "Zyyy", "Zzzz", "Zyyy", "Zzzz", "Zyyy",
  "Zzzz", "Zyyy", "Zzzz", "Zyyy", "Zzzz", "Zyyy", "Zzzz", "Zyyy", "Zzzz", "Zyyy", "Zzzz", "Zyyy",
  "Zzzz", "Zyyy", "Zzzz", "Zyyy", "Zzzz", "Zyyy", "Zzzz", "Zyyy", "Zzzz", "Zyyy", "Zzzz", "Zyyy",
  "Sgnw", "Zzzz", "Sgnw", "Zzzz", "Sgnw", "Zzzz", "Latn", "Zzzz", "Latn", "Zzzz", "Glag", "Zzzz",
  "Glag", "Zzzz", "Glag", "Zzzz", "Glag", "Zzzz", "Glag", "Zzzz", "Cyrl", "Zzzz", "Cyrl", "Zzzz",
  "Hmnp", "Zzzz", "Hmnp", "Zzzz", "Hmnp", "Zzzz", "Hmnp", "Zzzz", "Toto", "Zzzz", "Wcho", "Zzzz",
  "Wcho", "Zzzz", "Nagm", "Zzzz", "Onao", "Zzzz", "Onao", "Zzzz", "Ethi", "Zzzz", "Ethi", "Zzzz",
  "Ethi", "Zzzz", "Ethi", "Zzzz", "Mend", "Zzzz", "Mend", "Zzzz", "Adlm", "Zzzz", "Adlm", "Zzzz",
  "Adlm", "Zzzz", "Zyyy", "Zzzz", "Zyyy", "Zzzz", "Arab", "Zzzz", "Arab", "Zzzz", "Arab", "Zzzz",
  "Arab", "Zzzz", "Arab", "Zzzz", "Arab", "Zzzz", "Arab", "Zzzz", "Arab", "Zzzz", "Arab", "Zzzz",
  "Arab", "Zzzz", "Arab", "Zzzz", "Arab", "Zzzz", "Arab", "Zzzz", "Arab", "Zzzz", "Arab", "Zzzz",
  "Arab", "Zzzz", "Arab", "Zzzz", "Arab", "Zzzz", "Arab", "Zzzz", "Arab", "Zzzz", "Arab", "Zzzz",
  "Arab", "Zzzz", "Arab", "Zzzz", "Arab", "Zzzz", "Arab", "Zzzz", "Arab", "Zzzz", "Arab", "Zzzz",
  "Arab", "Zzzz", "Arab", "Zzzz", "Arab", "Zzzz", "Arab", "Zzzz", "Arab", "Zzzz", "Arab", "Zzzz",
  "Arab", "Zzzz", "Zyyy", "Zzzz", "Zyyy", "Zzzz", "Zyyy", "Zzzz", "Zyyy", "Zzzz", "Zyyy", "Zzzz",
  "Zyyy", "Zzzz", "Zyyy", "Zzzz", "Zyyy", "Hira", "Zyyy", "Zzzz", "Zyyy", "Zzzz", "Zyyy", "Zzzz",
  "Zyyy", "Zzzz", "Zyyy", "Zzzz", "Zyyy", "Zzzz", "Zyyy", "Zzzz", "Zyyy", "Zzzz", "Zyyy", "Zzzz",
  "Zyyy", "Zzzz", "Zyyy", "Zzzz", "Zyyy", "Zzzz", "Zyyy", "Zzzz", "Zyyy", "Zzzz", "Zyyy", "Zzzz",
  "Zyyy", "Zzzz", "Zyyy", "Zzzz", "Zyyy", "Zzzz", "Zyyy", "Zzzz", "Zyyy", "Zzzz", "Zyyy", "Zzzz",
  "Zyyy", "Zzzz", "Zyyy", "Zzzz", "Zyyy", "Zzzz", "Zyyy", "Zzzz", "Zyyy", "Zzzz", "Zyyy", "Zzzz",
  "Zyyy", "Zzzz", "Zyyy", "Zzzz", "Hani", "Zzzz", "Hani", "Zzzz", "Hani", "Zzzz", "Hani", "Zzzz",
  "Hani", "Zzzz", "Hani", "Zzzz", "Hani", "Zzzz", "Hani", "Zzzz", "Hani", "Zzzz", "Zyyy", "Zzzz",
  "Zyyy", "Zzzz", "Zinh", "Zzzz"]

/-- The ranges of code points that are used with other scripts than their
    own, and these scripts. -/
def scriptExtensions : List (Nat × Nat × List String) := [

  (183, 183, ["Avst", "Cari", "Copt", "Dupl", "Elba", "Geor", "Glag", "Gong", "Goth", "Grek", "Hani", "Latn", "Lydi", "Mahj", "Perm", "Shaw"]),
  (700, 700, ["Beng", "Cyrl", "Deva", "Latn", "Lisu", "Thai", "Toto"]),
  (711, 711, ["Bopo", "Latn"]), (713, 715, ["Bopo", "Latn"]), (717, 717, ["Latn", "Lisu"]),
  (727, 727, ["Latn", "Thai"]), (729, 729, ["Bopo", "Latn"]),
  (768, 768, ["Cher", "Copt", "Cyrl", "Grek", "Latn", "Perm", "Sunu", "Tale"]),
  (769, 769, ["Cher", "Cyrl", "Grek", "Latn", "Osge", "Sunu", "Tale", "Todr"]),
  (770, 770, ["Cher", "Cyrl", "Latn", "Tfng"]),
  (771, 771, ["Glag", "Latn", "Sunu", "Syrc", "Thai"]),
  (772, 772, ["Aghb", "Cher", "Copt", "Cyrl", "Goth", "Grek", "Latn", "Osge", "Syrc", "Tfng", "Todr"]),
  (773, 773, ["Copt", "Elba", "Glag", "Goth", "Kana", "Latn"]),
  (774, 774, ["Cyrl", "Grek", "Latn", "Perm", "Tfng"]),
  (775, 775, ["Copt", "Dupl", "Hebr", "Latn", "Perm", "Syrc", "Tale", "Tfng", "Todr"]),
  (776, 776, ["Armn", "Cyrl", "Dupl", "Goth", "Grek", "Hebr", "Latn", "Perm", "Syrc", "Tale", "Tfng"]),
  (777, 777, ["Latn", "Tfng"]), (778, 778, ["Dupl", "Latn", "Syrc"]),
  (779, 779, ["Cher", "Cyrl", "Latn", "Osge"]), (780, 780, ["Cher", "Latn", "Tale"]),
  (781, 781, ["Latn", "Sunu"]), (782, 782, ["Ethi", "Latn"]), (784, 784, ["Latn", "Sunu"]),
  (785, 785, ["Cyrl", "Latn", "Todr"]), (787, 787, ["Grek", "Latn", "Perm", "Todr"]),
  (803, 803, ["Cher", "Dupl", "Kana", "Latn", "Syrc", "Tfng"]),
  (804, 804, ["Cher", "Dupl", "Latn", "Syrc"]), (805, 805, ["Latn", "Syrc"]),
  (813, 813, ["Latn", "Sunu", "Syrc"]), (814, 814, ["Latn", "Syrc"]),
  (816, 816, ["Cher", "Latn", "Syrc"]),
  (817, 817, ["Aghb", "Cher", "Goth", "Latn", "Sunu", "Syrc", "Thai"]), (834, 834, ["Grek"]),
  (837, 837, ["Grek"]), (856, 856, ["Latn", "Osge"]), (862, 862, ["Aghb", "Latn", "Todr"]),
  (867, 879, ["Latn"]), (884, 885, ["Copt", "Grek"]), (1155, 1155, ["Cyrl", "Perm"]),
  (1156, 1156, ["Cyrl", "Glag"]), (1157, 1158, ["Cyrl", "Latn"]), (1159, 1159, ["Cyrl", "Glag"]),
  (1417, 1417, ["Armn", "Geor", "Glag"]),
  (1548, 1548, ["Arab", "Gara", "Nkoo", "Rohg", "Syrc", "Thaa", "Yezi"]),
  (1563, 1563, ["Arab", "Gara", "Nkoo", "Rohg", "Syrc", "Thaa", "Yezi"]),
  (1564, 1564, ["Arab", "Syrc", "Thaa"]),
  (1567, 1567, ["Adlm", "Arab", "Gara", "Nkoo", "Rohg", "Syrc", "Thaa", "Yezi"]),
  (1600, 1600, ["Adlm", "Arab", "Mand", "Mani", "Ougr", "Phlp", "Rohg", "Sogd", "Syrc"]),
  (1611, 1621, ["Arab", "Syrc"]), (1632, 1641, ["Arab", "Thaa", "Yezi"]),
  (1648, 1648, ["Arab", "Syrc"]), (1748, 1748, ["Arab", "Rohg"]),
  (2385, 2385, ["Beng", "Deva", "Gran", "Gujr", "Guru", "Knda", "Latn", "Mlym", "Nand", "Newa", "Orya", "Shrd", "Taml", "Telu", "Tirh"]),
  (2386, 2386, ["Beng", "Deva", "Gran", "Gujr", "Guru", "Knda", "Latn", "Mlym", "Newa", "Orya", "Taml", "Telu", "Tirh"]),
  (2404, 2404, ["Beng", "Deva", "Dogr", "Gong", "Gonm", "Gran", "Gujr", "Guru", "Knda", "Mahj", "Mlym", "Nand", "Onao", "Orya", "Sind", "Sinh", "Sylo", "Takr", "Taml", "Telu", "Tirh"]),
  (2405, 2405, ["Beng", "Deva", "Dogr", "Gong", "Gonm", "Gran", "Gujr", "Gukh", "Guru", "Knda", "Limb", "Mahj", "Mlym", "Nand", "Onao", "Orya", "Sind", "Sinh", "Sylo", "Takr", "Taml", "Telu", "Tirh"]),
  (2406, 2415, ["Deva", "Dogr", "Kthi", "Mahj"]), (2534, 2543, ["Beng", "Cakm", "Sylo"]),
  (2662, 2671, ["Guru", "Mult"]), (2790, 2799, ["Gujr", "Khoj"]), (3046, 3059, ["Gran", "Taml"]),
  (3302, 3311, ["Knda", "Nand", "Tutg"]), (4160, 4169, ["Cakm", "Mymr", "Tale"]),
  (4347, 4347, ["Geor", "Glag", "Latn"]), (5867, 5869, ["Runr"]),
  (5941, 5942, ["Buhd", "Hano", "Tagb", "Tglg"]), (6146, 6147, ["Mong", "Phag"]),
  (6149, 6149, ["Mong", "Phag"]), (7376, 7376, ["Beng", "Deva", "Gran", "Knda"]),
  (7377, 7377, ["Deva"]), (7378, 7378, ["Beng", "Deva", "Gran", "Knda"]),
  (7379, 7379, ["Deva", "Gran", "Knda"]), (7380, 7380, ["Deva"]),
  (7381, 7381, ["Beng", "Deva", "Newa", "Telu", "Tirh"]), (7382, 7382, ["Beng", "Deva", "Telu"]),
  (7383, 7383, ["Deva", "Newa", "Shrd"]), (7384, 7384, ["Beng", "Deva", "Newa", "Telu"]),
  (7385, 7385, ["Deva", "Shrd"]), (7386, 7386, ["Deva", "Knda", "Mlym", "Orya", "Taml", "Telu"]),
  (7387, 7387, ["Deva"]), (7388, 7389, ["Deva", "Shrd"]), (7390, 7391, ["Deva"]),
  (7392, 7392, ["Deva", "Shrd"]), (7393, 7393, ["Beng", "Deva"]),
  (7394, 7394, ["Deva", "Newa", "Tirh"]), (7395, 7400, ["Deva"]),
  (7401, 7401, ["Deva", "Nand", "Newa"]), (7402, 7402, ["Beng", "Deva", "Shrd"]),
  (7403, 7403, ["Deva", "Newa"]), (7404, 7404, ["Deva"]),
  (7405, 7405, ["Beng", "Deva", "Newa", "Shrd"]), (7406, 7409, ["Deva"]),
  (7410, 7410, ["Beng", "Deva", "Gran", "Knda", "Mlym", "Nand", "Orya", "Sinh", "Telu", "Tirh", "Tutg"]),
  (7411, 7411, ["Deva", "Gran"]), (7412, 7412, ["Deva", "Gran", "Knda", "Tutg"]),
  (7413, 7414, ["Beng", "Deva"]), (7415, 7415, ["Beng"]), (7416, 7417, ["Deva", "Gran"]),
  (7418, 7418, ["Nand"]), (7616, 7617, ["Grek"]), (7672, 7672, ["Cyrl", "Latn", "Syrc"]),
  (7674, 7674, ["Syrc"]), (8239, 8239, ["Latn", "Mong", "Phag"]), (8271, 8271, ["Adlm", "Arab"]),
  (8282, 8282, ["Cari", "Geor", "Glag", "Hung", "Lyci", "Orkh"]),
  (8285, 8285, ["Cari", "Grek", "Hung", "Mero"]), (8432, 8432, ["Deva", "Gran", "Latn"]),
  (11799, 11799, ["Copt", "Latn"]), (11824, 11824, ["Avst", "Orkh"]),
  (11825, 11825, ["Avst", "Cari", "Geor", "Hung", "Kthi", "Lydi", "Samr"]),
  (11836, 11836, ["Dupl"]), (11841, 11841, ["Adlm", "Arab", "Hung"]),
  (11843, 11843, ["Cyrl", "Glag"]), (12272, 12287, ["Hani", "Tang"]),
  (12289, 12289, ["Bopo", "Hang", "Hani", "Hira", "Kana", "Mong", "Yiii"]),
  (12290, 12290, ["Bopo", "Hang", "Hani", "Hira", "Kana", "Mong", "Phag", "Yiii"]),
  (12291, 12291, ["Bopo", "Hang", "Hani", "Hira", "Kana"]), (12294, 12294, ["Hani"]),
  (12296, 12297, ["Bopo", "Hang", "Hani", "Hira", "Kana", "Mong", "Tibt", "Yiii"]),
  (12298, 12299, ["Bopo", "Hang", "Hani", "Hira", "Kana", "Lisu", "Mong", "Tibt", "Yiii"]),
  (12300, 12305, ["Bopo", "Hang", "Hani", "Hira", "Kana", "Yiii"]),
  (12307, 12307, ["Bopo", "Hang", "Hani", "Hira", "Kana"]),
  (12308, 12315, ["Bopo", "Hang", "Hani", "Hira", "Kana", "Yiii"]),
  (12316, 12319, ["Bopo", "Hang", "Hani", "Hira", "Kana"]), (12330, 12333, ["Bopo", "Hani"]),
  (12336, 12336, ["Bopo", "Hang", "Hani", "Hira", "Kana"]), (12337, 12341, ["Hira", "Kana"]),
  (12343, 12343, ["Bopo", "Hang", "Hani", "Hira", "Kana"]),
  (12348, 12349, ["Hani", "Hira", "Kana"]), (12350, 12351, ["Hani"]),
  (12441, 12444, ["Hira", "Kana"]), (12448, 12448, ["Hira", "Kana"]),
  (12539, 12539, ["Bopo", "Hang", "Hani", "Hira", "Kana", "Yiii"]),
  (12540, 12540, ["Hira", "Kana"]), (12688, 12703, ["Hani"]), (12736, 12773, ["Hani"]),
  (12783, 12783, ["Hani", "Tang"]), (12832, 12871, ["Hani"]), (12928, 12976, ["Hani"]),
  (12992, 13003, ["Hani"]), (13055, 13055, ["Hani"]), (13144, 13168, ["Hani"]),
  (13179, 13183, ["Hani"]), (13280, 13310, ["Hani"]), (42607, 42607, ["Cyrl", "Glag"]),
  (42752, 42759, ["Hani", "Latn"]),
  (43056, 43058, ["Deva", "Dogr", "Gujr", "Guru", "Khoj", "Knda", "Kthi", "Mahj", "Mlym", "Modi", "Nand", "Shrd", "Sind", "Takr", "Tirh", "Tutg"]),
  (43059, 43061, ["Deva", "Dogr", "Gujr", "Guru", "Khoj", "Knda", "Kthi", "Mahj", "Modi", "Nand", "Shrd", "Sind", "Takr", "Tirh", "Tutg"]),
  (43062, 43063, ["Deva", "Dogr", "Gujr", "Guru", "Khoj", "Kthi", "Mahj", "Modi", "Sind", "Takr", "Tirh"]),
  (43064, 43064, ["Deva", "Dogr", "Gujr", "Guru", "Khoj", "Kthi", "Mahj", "Modi", "Shrd", "Sind", "Takr", "Tirh"]),
  (43065, 43065, ["Deva", "Dogr", "Gujr", "Guru", "Khoj", "Kthi", "Mahj", "Modi", "Sind", "Takr", "Tirh"]),
  (43249, 43249, ["Beng", "Deva", "Tutg"]), (43251, 43251, ["Deva", "Taml"]),
  (43310, 43310, ["Kali", "Latn", "Mymr"]), (43471, 43471, ["Bugi", "Java"]),
  (64830, 64831, ["Arab", "Nkoo"]), (65010, 65010, ["Arab", "Thaa"]),
  (65021, 65021, ["Arab", "Thaa"]), (65093, 65094, ["Bopo", "Hang", "Hani", "Hira", "Kana"]),
  (65377, 65381, ["Bopo", "Hang", "Hani", "Hira", "Kana", "Yiii"]),
  (65392, 65392, ["Hira", "Kana"]), (65438, 65439, ["Hira", "Kana"]),
  (65792, 65793, ["Cpmn", "Cprt", "Linb"]), (65794, 65794, ["Cprt", "Linb"]),
  (65799, 65843, ["Cprt", "Lina", "Linb"]), (65847, 65855, ["Cprt", "Linb"]),
  (66272, 66299, ["Arab", "Copt"]), (68338, 68338, ["Mani", "Ougr"]),
  (70401, 70401, ["Gran", "Taml"]), (70403, 70403, ["Gran", "Taml"]),
  (70459, 70460, ["Gran", "Taml"]), (73680, 73681, ["Gran", "Taml"]),
  (73683, 73683, ["Gran", "Taml"]), (113824, 113827, ["Dupl"]), (119648, 119665, ["Hani"]),
  (127568, 127569, ["Hani"])]

/-- The names of the scripts in small letters, each beginning with the code. -/
def scriptNames : List (String × List String) := [
  ("Adlm", ["adlm", "adlam"]), ("Aghb", ["aghb", "caucasianalbanian"]), ("Ahom", ["ahom"]),
  ("Arab", ["arab", "arabic"]), ("Armi", ["armi", "imperialaramaic"]),
  ("Armn", ["armn", "armenian"]), ("Avst", ["avst", "avestan"]), ("Bali", ["bali", "balinese"]),
  ("Bamu", ["bamu", "bamum"]), ("Bass", ["bass", "bassavah"]), ("Batk", ["batk", "batak"]),
  ("Beng", ["beng", "bengali"]), ("Bhks", ["bhks", "bhaiksuki"]), ("Bopo", ["bopo", "bopomofo"]),
  ("Brah", ["brah", "brahmi"]), ("Brai", ["brai", "braille"]), ("Bugi", ["bugi", "buginese"]),
  ("Buhd", ["buhd", "buhid"]), ("Cakm", ["cakm", "chakma"]),
  ("Cans", ["cans", "canadianaboriginal"]), ("Cari", ["cari", "carian"]), ("Cham", ["cham"]),
  ("Cher", ["cher", "cherokee"]), ("Chrs", ["chrs", "chorasmian"]),
  ("Copt", ["qaac", "copt", "coptic"]), ("Cpmn", ["cpmn", "cyprominoan"]),
  ("Cprt", ["cprt", "cypriot"]), ("Cyrl", ["cyrl", "cyrillic"]), ("Deva", ["deva", "devanagari"]),
  ("Diak", ["diak", "divesakuru"]), ("Dogr", ["dogr", "dogra"]), ("Dsrt", ["dsrt", "deseret"]),
  ("Dupl", ["dupl", "duployan"]), ("Egyp", ["egyp", "egyptianhieroglyphs"]),
  ("Elba", ["elba", "elbasan"]), ("Elym", ["elym", "elymaic"]), ("Ethi", ["ethi", "ethiopic"]),
  ("Gara", ["gara", "garay"]), ("Geor", ["geor", "georgian"]), ("Glag", ["glag", "glagolitic"]),
  ("Gong", ["gong", "gunjalagondi"]), ("Gonm", ["gonm", "masaramgondi"]),
  ("Goth", ["goth", "gothic"]), ("Gran", ["gran", "grantha"]), ("Grek", ["grek", "greek"]),
  ("Gujr", ["gujr", "gujarati"]), ("Gukh", ["gukh", "gurungkhema"]),
  ("Guru", ["guru", "gurmukhi"]), ("Hang", ["hang", "hangul"]), ("Hani", ["han", "hani"]),
  ("Hano", ["hano", "hanunoo"]), ("Hatr", ["hatr", "hatran"]), ("Hebr", ["hebr", "hebrew"]),
  ("Hira", ["hira", "hiragana"]), ("Hluw", ["hluw", "anatolianhieroglyphs"]),
  ("Hmng", ["hmng", "pahawhhmong"]), ("Hmnp", ["hmnp", "nyiakengpuachuehmong"]),
  ("Hung", ["hung", "oldhungarian"]), ("Ital", ["ital", "olditalic"]),
  ("Java", ["java", "javanese"]), ("Kali", ["kali", "kayahli"]), ("Kana", ["kana", "katakana"]),
  ("Kawi", ["kawi"]), ("Khar", ["khar", "kharoshthi"]), ("Khmr", ["khmr", "khmer"]),
  ("Khoj", ["khoj", "khojki"]), ("Kits", ["kits", "khitansmallscript"]),
  ("Knda", ["knda", "kannada"]), ("Krai", ["krai", "kiratrai"]), ("Kthi", ["kthi", "kaithi"]),
  ("Lana", ["lana", "taitham"]), ("Laoo", ["lao", "laoo"]), ("Latn", ["latn", "latin"]),
  ("Lepc", ["lepc", "lepcha"]), ("Limb", ["limb", "limbu"]), ("Lina", ["lina", "lineara"]),
  ("Linb", ["linb", "linearb"]), ("Lisu", ["lisu"]), ("Lyci", ["lyci", "lycian"]),
  ("Lydi", ["lydi", "lydian"]), ("Mahj", ["mahj", "mahajani"]), ("Maka", ["maka", "makasar"]),
  ("Mand", ["mand", "mandaic"]), ("Mani", ["mani", "manichaean"]), ("Marc", ["marc", "marchen"]),
  ("Medf", ["medf", "medefaidrin"]), ("Mend", ["mend", "mendekikakui"]),
  ("Merc", ["merc", "meroiticcursive"]), ("Mero", ["mero", "meroitichieroglyphs"]),
  ("Mlym", ["mlym", "malayalam"]), ("Modi", ["modi"]), ("Mong", ["mong", "mongolian"]),
  ("Mroo", ["mro", "mroo"]), ("Mtei", ["mtei", "meeteimayek"]), ("Mult", ["mult", "multani"]),
  ("Mymr", ["mymr", "myanmar"]), ("Nagm", ["nagm", "nagmundari"]),
  ("Nand", ["nand", "nandinagari"]), ("Narb", ["narb", "oldnortharabian"]),
  ("Nbat", ["nbat", "nabataean"]), ("Newa", ["newa"]), ("Nkoo", ["nko", "nkoo"]),
  ("Nshu", ["nshu", "nushu"]), ("Ogam", ["ogam", "ogham"]), ("Olck", ["olck", "olchiki"]),
  ("Onao", ["onao", "olonal"]), ("Orkh", ["orkh", "oldturkic"]), ("Orya", ["orya", "oriya"]),
  ("Osge", ["osge", "osage"]), ("Osma", ["osma", "osmanya"]), ("Ougr", ["ougr", "olduyghur"]),
  ("Palm", ["palm", "palmyrene"]), ("Pauc", ["pauc", "paucinhau"]),
  ("Perm", ["perm", "oldpermic"]), ("Phag", ["phag", "phagspa"]),
  ("Phli", ["phli", "inscriptionalpahlavi"]), ("Phlp", ["phlp", "psalterpahlavi"]),
  ("Phnx", ["phnx", "phoenician"]), ("Plrd", ["plrd", "miao"]),
  ("Prti", ["prti", "inscriptionalparthian"]), ("Rjng", ["rjng", "rejang"]),
  ("Rohg", ["rohg", "hanifirohingya"]), ("Runr", ["runr", "runic"]),
  ("Samr", ["samr", "samaritan"]), ("Sarb", ["sarb", "oldsoutharabian"]),
  ("Saur", ["saur", "saurashtra"]), ("Sgnw", ["sgnw", "signwriting"]),
  ("Shaw", ["shaw", "shavian"]), ("Shrd", ["shrd", "sharada"]), ("Sidd", ["sidd", "siddham"]),
  ("Sind", ["sind", "khudawadi"]), ("Sinh", ["sinh", "sinhala"]), ("Sogd", ["sogd", "sogdian"]),
  ("Sogo", ["sogo", "oldsogdian"]), ("Sora", ["sora", "sorasompeng"]),
  ("Soyo", ["soyo", "soyombo"]), ("Sund", ["sund", "sundanese"]), ("Sunu", ["sunu", "sunuwar"]),
  ("Sylo", ["sylo", "sylotinagri"]), ("Syrc", ["syrc", "syriac"]), ("Tagb", ["tagb", "tagbanwa"]),
  ("Takr", ["takr", "takri"]), ("Tale", ["tale", "taile"]), ("Talu", ["talu", "newtailue"]),
  ("Taml", ["taml", "tamil"]), ("Tang", ["tang", "tangut"]), ("Tavt", ["tavt", "taiviet"]),
  ("Telu", ["telu", "telugu"]), ("Tfng", ["tfng", "tifinagh"]), ("Tglg", ["tglg", "tagalog"]),
  ("Thaa", ["thaa", "thaana"]), ("Thai", ["thai"]), ("Tibt", ["tibt", "tibetan"]),
  ("Tirh", ["tirh", "tirhuta"]), ("Tnsa", ["tnsa", "tangsa"]), ("Todr", ["todr", "todhri"]),
  ("Toto", ["toto"]), ("Tutg", ["tutg", "tulutigalari"]), ("Ugar", ["ugar", "ugaritic"]),
  ("Vaii", ["vai", "vaii"]), ("Vith", ["vith", "vithkuqi"]), ("Wara", ["wara", "warangciti"]),
  ("Wcho", ["wcho", "wancho"]), ("Xpeo", ["xpeo", "oldpersian"]), ("Xsux", ["xsux", "cuneiform"]),
  ("Yezi", ["yezi", "yezidi"]), ("Yiii", ["yi", "yiii"]), ("Zanb", ["zanb", "zanabazarsquare"]),
  ("Zinh", ["qaai", "zinh", "inherited"]), ("Zyyy", ["zyyy", "common"])]

/-- The script of a code point. -/
def scriptOf (n : Nat) : String :=
  scriptValues.getD (rank scriptStarts n - 1) "Zzzz"

/-- The scripts that a code point is used with. -/
def scriptsOf (n : Nat) : List String :=
  match scriptExtensions.find? fun e => e.1 ≤ n && n ≤ e.2.1 with
  | some e => e.2.2
  | none => [scriptOf n]

/-- The script with a name. -/
def script? (name : String) : Option String :=
  (scriptNames.find? (·.2.contains name)).map (·.1)

end CatalogAudit.Unicode
