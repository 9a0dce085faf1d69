/-!
# Characters that stand for others

Code points that occur in names and stand for other ones, as Unicode 14 assigns them: letters of
another width or style, ligatures, presentation forms and ideographs with two codes. Composed
characters are not listed here.
-/

namespace ServiceStubs.Text

/-- Runs of letters and marks: the first code point of a run, its length, and what the first one
stands for; the following ones stand for the following ones. -/
def replacedLetters : List (Nat × Nat × Nat) := [
  (0xaa, 1, 0x61), (0xb5, 1, 0x3bc), (0xba, 1, 0x6f), (0x17f, 1, 0x73), (0x2b0, 1, 0x68),
  (0x2b1, 1, 0x266), (0x2b2, 1, 0x6a), (0x2b3, 1, 0x72), (0x2b4, 1, 0x279), (0x2b5, 1, 0x27b),
  (0x2b6, 1, 0x281), (0x2b7, 1, 0x77), (0x2b8, 1, 0x79), (0x2e0, 1, 0x263), (0x2e1, 1, 0x6c),
  (0x2e2, 1, 0x73), (0x2e3, 1, 0x78), (0x2e4, 1, 0x295), (0x340, 2, 0x300), (0x343, 1, 0x313),
  (0x374, 1, 0x2b9), (0x387, 1, 0xb7), (0x3d0, 1, 0x3b2), (0x3d1, 1, 0x3b8), (0x3d2, 1, 0x3a5),
  (0x3d5, 1, 0x3c6), (0x3d6, 1, 0x3c0), (0x3f0, 1, 0x3ba), (0x3f1, 2, 0x3c1), (0x3f4, 1, 0x398),
  (0x3f5, 1, 0x3b5), (0x3f9, 1, 0x3a3), (0x10fc, 1, 0x10dc), (0x1d2c, 1, 0x41), (0x1d2d, 1, 0xc6),
  (0x1d2e, 1, 0x42), (0x1d30, 2, 0x44), (0x1d32, 1, 0x18e), (0x1d33, 8, 0x47), (0x1d3c, 1, 0x4f),
  (0x1d3d, 1, 0x222), (0x1d3e, 1, 0x50), (0x1d3f, 1, 0x52), (0x1d40, 2, 0x54), (0x1d42, 1, 0x57),
  (0x1d43, 1, 0x61), (0x1d44, 2, 0x250), (0x1d46, 1, 0x1d02), (0x1d47, 1, 0x62), (0x1d48, 2, 0x64),
  (0x1d4a, 1, 0x259), (0x1d4b, 2, 0x25b), (0x1d4d, 1, 0x67), (0x1d4f, 1, 0x6b), (0x1d50, 1, 0x6d),
  (0x1d51, 1, 0x14b), (0x1d52, 1, 0x6f), (0x1d53, 1, 0x254), (0x1d54, 2, 0x1d16),
  (0x1d56, 1, 0x70), (0x1d57, 2, 0x74), (0x1d59, 1, 0x1d1d), (0x1d5a, 1, 0x26f), (0x1d5b, 1, 0x76),
  (0x1d5c, 1, 0x1d25), (0x1d5d, 3, 0x3b2), (0x1d60, 2, 0x3c6), (0x1d62, 1, 0x69),
  (0x1d63, 1, 0x72), (0x1d64, 2, 0x75), (0x1d66, 2, 0x3b2), (0x1d68, 1, 0x3c1), (0x1d69, 2, 0x3c6),
  (0x1d78, 1, 0x43d), (0x1d9b, 1, 0x252), (0x1d9c, 1, 0x63), (0x1d9d, 1, 0x255), (0x1d9e, 1, 0xf0),
  (0x1d9f, 1, 0x25c), (0x1da0, 1, 0x66), (0x1da1, 1, 0x25f), (0x1da2, 1, 0x261),
  (0x1da3, 1, 0x265), (0x1da4, 3, 0x268), (0x1da7, 1, 0x1d7b), (0x1da8, 1, 0x29d),
  (0x1da9, 1, 0x26d), (0x1daa, 1, 0x1d85), (0x1dab, 1, 0x29f), (0x1dac, 1, 0x271),
  (0x1dad, 1, 0x270), (0x1dae, 4, 0x272), (0x1db2, 1, 0x278), (0x1db3, 2, 0x282),
  (0x1db5, 1, 0x1ab), (0x1db6, 2, 0x289), (0x1db8, 1, 0x1d1c), (0x1db9, 2, 0x28b),
  (0x1dbb, 1, 0x7a), (0x1dbc, 3, 0x290), (0x1dbf, 1, 0x3b8), (0x1fbe, 1, 0x3b9), (0x2071, 1, 0x69),
  (0x207f, 1, 0x6e), (0x2090, 1, 0x61), (0x2091, 1, 0x65), (0x2092, 1, 0x6f), (0x2093, 1, 0x78),
  (0x2094, 1, 0x259), (0x2095, 1, 0x68), (0x2096, 4, 0x6b), (0x209a, 1, 0x70), (0x209b, 2, 0x73),
  (0x2102, 1, 0x43), (0x2107, 1, 0x190), (0x210a, 1, 0x67), (0x210b, 1, 0x48), (0x210c, 1, 0x48),
  (0x210d, 1, 0x48), (0x210e, 1, 0x68), (0x210f, 1, 0x127), (0x2110, 1, 0x49), (0x2111, 1, 0x49),
  (0x2112, 1, 0x4c), (0x2113, 1, 0x6c), (0x2115, 1, 0x4e), (0x2119, 3, 0x50), (0x211c, 1, 0x52),
  (0x211d, 1, 0x52), (0x2124, 1, 0x5a), (0x2126, 1, 0x3a9), (0x2128, 1, 0x5a), (0x212a, 1, 0x4b),
  (0x212c, 2, 0x42), (0x212f, 1, 0x65), (0x2130, 2, 0x45), (0x2133, 1, 0x4d), (0x2134, 1, 0x6f),
  (0x2135, 4, 0x5d0), (0x2139, 1, 0x69), (0x213c, 1, 0x3c0), (0x213d, 1, 0x3b3),
  (0x213e, 1, 0x393), (0x213f, 1, 0x3a0), (0x2145, 1, 0x44), (0x2146, 2, 0x64), (0x2148, 2, 0x69),
  (0x2160, 1, 0x49), (0x2164, 1, 0x56), (0x2169, 1, 0x58), (0x216c, 1, 0x4c), (0x216d, 2, 0x43),
  (0x216f, 1, 0x4d), (0x2170, 1, 0x69), (0x2174, 1, 0x76), (0x2179, 1, 0x78), (0x217c, 1, 0x6c),
  (0x217d, 2, 0x63), (0x217f, 1, 0x6d), (0x2c7c, 1, 0x6a), (0x2c7d, 1, 0x56), (0x2d6f, 1, 0x2d61),
  (0x3038, 1, 0x5341), (0x3039, 2, 0x5344), (0x3131, 2, 0x1100), (0x3133, 1, 0x11aa),
  (0x3134, 1, 0x1102), (0x3135, 2, 0x11ac), (0x3137, 3, 0x1103), (0x313a, 6, 0x11b0),
  (0x3140, 1, 0x111a), (0x3141, 3, 0x1106), (0x3144, 1, 0x1121), (0x3145, 10, 0x1109),
  (0x314f, 21, 0x1161), (0x3164, 1, 0x1160), (0x3165, 2, 0x1114), (0x3167, 2, 0x11c7),
  (0x3169, 1, 0x11cc), (0x316a, 1, 0x11ce), (0x316b, 1, 0x11d3), (0x316c, 1, 0x11d7),
  (0x316d, 1, 0x11d9), (0x316e, 1, 0x111c), (0x316f, 1, 0x11dd), (0x3170, 1, 0x11df),
  (0x3171, 2, 0x111d), (0x3173, 1, 0x1120), (0x3174, 2, 0x1122), (0x3176, 1, 0x1127),
  (0x3177, 1, 0x1129), (0x3178, 5, 0x112b), (0x317d, 1, 0x1132), (0x317e, 1, 0x1136),
  (0x317f, 1, 0x1140), (0x3180, 1, 0x1147), (0x3181, 1, 0x114c), (0x3182, 2, 0x11f1),
  (0x3184, 3, 0x1157), (0x3187, 2, 0x1184), (0x3189, 1, 0x1188), (0x318a, 2, 0x1191),
  (0x318c, 1, 0x1194), (0x318d, 1, 0x119e), (0x318e, 1, 0x11a1), (0xa69c, 1, 0x44a),
  (0xa69d, 1, 0x44c), (0xa770, 1, 0xa76f), (0xa7f2, 1, 0x43), (0xa7f3, 1, 0x46), (0xa7f4, 1, 0x51),
  (0xa7f8, 1, 0x126), (0xa7f9, 1, 0x153), (0xab5c, 1, 0xa727), (0xab5d, 1, 0xab37),
  (0xab5e, 1, 0x26b), (0xab5f, 1, 0xab52), (0xab69, 1, 0x28d)]

/-- Runs of ideographs that have two codes. -/
def replacedIdeographs : List (Nat × Nat × Nat) := [
  (0xf900, 1, 0x8c48), (0xf901, 1, 0x66f4), (0xf902, 1, 0x8eca), (0xf903, 1, 0x8cc8),
  (0xf904, 1, 0x6ed1), (0xf905, 1, 0x4e32), (0xf906, 1, 0x53e5), (0xf907, 1, 0x9f9c),
  (0xf908, 1, 0x9f9c), (0xf909, 1, 0x5951), (0xf90a, 1, 0x91d1), (0xf90b, 1, 0x5587),
  (0xf90c, 1, 0x5948), (0xf90d, 1, 0x61f6), (0xf90e, 1, 0x7669), (0xf90f, 1, 0x7f85),
  (0xf910, 1, 0x863f), (0xf911, 1, 0x87ba), (0xf912, 1, 0x88f8), (0xf913, 1, 0x908f),
  (0xf914, 1, 0x6a02), (0xf915, 1, 0x6d1b), (0xf916, 1, 0x70d9), (0xf917, 1, 0x73de),
  (0xf918, 1, 0x843d), (0xf919, 1, 0x916a), (0xf91a, 1, 0x99f1), (0xf91b, 1, 0x4e82),
  (0xf91c, 1, 0x5375), (0xf91d, 1, 0x6b04), (0xf91e, 1, 0x721b), (0xf91f, 1, 0x862d),
  (0xf920, 1, 0x9e1e), (0xf921, 1, 0x5d50), (0xf922, 1, 0x6feb), (0xf923, 1, 0x85cd),
  (0xf924, 1, 0x8964), (0xf925, 1, 0x62c9), (0xf926, 1, 0x81d8), (0xf927, 1, 0x881f),
  (0xf928, 1, 0x5eca), (0xf929, 1, 0x6717), (0xf92a, 1, 0x6d6a), (0xf92b, 1, 0x72fc),
  (0xf92c, 1, 0x90ce), (0xf92d, 1, 0x4f86), (0xf92e, 1, 0x51b7), (0xf92f, 1, 0x52de),
  (0xf930, 1, 0x64c4), (0xf931, 1, 0x6ad3), (0xf932, 1, 0x7210), (0xf933, 1, 0x76e7),
  (0xf934, 1, 0x8001), (0xf935, 1, 0x8606), (0xf936, 1, 0x865c), (0xf937, 1, 0x8def),
  (0xf938, 1, 0x9732), (0xf939, 1, 0x9b6f), (0xf93a, 1, 0x9dfa), (0xf93b, 1, 0x788c),
  (0xf93c, 1, 0x797f), (0xf93d, 1, 0x7da0), (0xf93e, 1, 0x83c9), (0xf93f, 1, 0x9304),
  (0xf940, 1, 0x9e7f), (0xf941, 1, 0x8ad6), (0xf942, 1, 0x58df), (0xf943, 1, 0x5f04),
  (0xf944, 1, 0x7c60), (0xf945, 1, 0x807e), (0xf946, 1, 0x7262), (0xf947, 1, 0x78ca),
  (0xf948, 1, 0x8cc2), (0xf949, 1, 0x96f7), (0xf94a, 1, 0x58d8), (0xf94b, 1, 0x5c62),
  (0xf94c, 1, 0x6a13), (0xf94d, 1, 0x6dda), (0xf94e, 1, 0x6f0f), (0xf94f, 1, 0x7d2f),
  (0xf950, 1, 0x7e37), (0xf951, 1, 0x964b), (0xf952, 1, 0x52d2), (0xf953, 1, 0x808b),
  (0xf954, 1, 0x51dc), (0xf955, 1, 0x51cc), (0xf956, 1, 0x7a1c), (0xf957, 1, 0x7dbe),
  (0xf958, 1, 0x83f1), (0xf959, 1, 0x9675), (0xf95a, 1, 0x8b80), (0xf95b, 1, 0x62cf),
  (0xf95c, 1, 0x6a02), (0xf95d, 1, 0x8afe), (0xf95e, 1, 0x4e39), (0xf95f, 1, 0x5be7),
  (0xf960, 1, 0x6012), (0xf961, 1, 0x7387), (0xf962, 1, 0x7570), (0xf963, 1, 0x5317),
  (0xf964, 1, 0x78fb), (0xf965, 1, 0x4fbf), (0xf966, 1, 0x5fa9), (0xf967, 1, 0x4e0d),
  (0xf968, 1, 0x6ccc), (0xf969, 1, 0x6578), (0xf96a, 1, 0x7d22), (0xf96b, 1, 0x53c3),
  (0xf96c, 1, 0x585e), (0xf96d, 1, 0x7701), (0xf96e, 1, 0x8449), (0xf96f, 1, 0x8aaa),
  (0xf970, 1, 0x6bba), (0xf971, 1, 0x8fb0), (0xf972, 1, 0x6c88), (0xf973, 1, 0x62fe),
  (0xf974, 1, 0x82e5), (0xf975, 1, 0x63a0), (0xf976, 1, 0x7565), (0xf977, 1, 0x4eae),
  (0xf978, 1, 0x5169), (0xf979, 1, 0x51c9), (0xf97a, 1, 0x6881), (0xf97b, 1, 0x7ce7),
  (0xf97c, 1, 0x826f), (0xf97d, 1, 0x8ad2), (0xf97e, 1, 0x91cf), (0xf97f, 1, 0x52f5),
  (0xf980, 1, 0x5442), (0xf981, 1, 0x5973), (0xf982, 1, 0x5eec), (0xf983, 1, 0x65c5),
  (0xf984, 1, 0x6ffe), (0xf985, 1, 0x792a), (0xf986, 1, 0x95ad), (0xf987, 1, 0x9a6a),
  (0xf988, 1, 0x9e97), (0xf989, 1, 0x9ece), (0xf98a, 1, 0x529b), (0xf98b, 1, 0x66c6),
  (0xf98c, 1, 0x6b77), (0xf98d, 1, 0x8f62), (0xf98e, 1, 0x5e74), (0xf98f, 1, 0x6190),
  (0xf990, 1, 0x6200), (0xf991, 1, 0x649a), (0xf992, 1, 0x6f23), (0xf993, 1, 0x7149),
  (0xf994, 1, 0x7489), (0xf995, 1, 0x79ca), (0xf996, 1, 0x7df4), (0xf997, 1, 0x806f),
  (0xf998, 1, 0x8f26), (0xf999, 1, 0x84ee), (0xf99a, 1, 0x9023), (0xf99b, 1, 0x934a),
  (0xf99c, 1, 0x5217), (0xf99d, 1, 0x52a3), (0xf99e, 1, 0x54bd), (0xf99f, 1, 0x70c8),
  (0xf9a0, 1, 0x88c2), (0xf9a1, 1, 0x8aaa), (0xf9a2, 1, 0x5ec9), (0xf9a3, 1, 0x5ff5),
  (0xf9a4, 1, 0x637b), (0xf9a5, 1, 0x6bae), (0xf9a6, 1, 0x7c3e), (0xf9a7, 1, 0x7375),
  (0xf9a8, 1, 0x4ee4), (0xf9a9, 1, 0x56f9), (0xf9aa, 1, 0x5be7), (0xf9ab, 1, 0x5dba),
  (0xf9ac, 1, 0x601c), (0xf9ad, 1, 0x73b2), (0xf9ae, 1, 0x7469), (0xf9af, 1, 0x7f9a),
  (0xf9b0, 1, 0x8046), (0xf9b1, 1, 0x9234), (0xf9b2, 1, 0x96f6), (0xf9b3, 1, 0x9748),
  (0xf9b4, 1, 0x9818), (0xf9b5, 1, 0x4f8b), (0xf9b6, 1, 0x79ae), (0xf9b7, 1, 0x91b4),
  (0xf9b8, 1, 0x96b8), (0xf9b9, 1, 0x60e1), (0xf9ba, 1, 0x4e86), (0xf9bb, 1, 0x50da),
  (0xf9bc, 1, 0x5bee), (0xf9bd, 1, 0x5c3f), (0xf9be, 1, 0x6599), (0xf9bf, 1, 0x6a02),
  (0xf9c0, 1, 0x71ce), (0xf9c1, 1, 0x7642), (0xf9c2, 1, 0x84fc), (0xf9c3, 1, 0x907c),
  (0xf9c4, 1, 0x9f8d), (0xf9c5, 1, 0x6688), (0xf9c6, 1, 0x962e), (0xf9c7, 1, 0x5289),
  (0xf9c8, 1, 0x677b), (0xf9c9, 1, 0x67f3), (0xf9ca, 1, 0x6d41), (0xf9cb, 1, 0x6e9c),
  (0xf9cc, 1, 0x7409), (0xf9cd, 1, 0x7559), (0xf9ce, 1, 0x786b), (0xf9cf, 1, 0x7d10),
  (0xf9d0, 1, 0x985e), (0xf9d1, 1, 0x516d), (0xf9d2, 1, 0x622e), (0xf9d3, 1, 0x9678),
  (0xf9d4, 1, 0x502b), (0xf9d5, 1, 0x5d19), (0xf9d6, 1, 0x6dea), (0xf9d7, 1, 0x8f2a),
  (0xf9d8, 1, 0x5f8b), (0xf9d9, 1, 0x6144), (0xf9da, 1, 0x6817), (0xf9db, 1, 0x7387),
  (0xf9dc, 1, 0x9686), (0xf9dd, 1, 0x5229), (0xf9de, 1, 0x540f), (0xf9df, 1, 0x5c65),
  (0xf9e0, 1, 0x6613), (0xf9e1, 1, 0x674e), (0xf9e2, 1, 0x68a8), (0xf9e3, 1, 0x6ce5),
  (0xf9e4, 1, 0x7406), (0xf9e5, 1, 0x75e2), (0xf9e6, 1, 0x7f79), (0xf9e7, 1, 0x88cf),
  (0xf9e8, 1, 0x88e1), (0xf9e9, 1, 0x91cc), (0xf9ea, 1, 0x96e2), (0xf9eb, 1, 0x533f),
  (0xf9ec, 1, 0x6eba), (0xf9ed, 1, 0x541d), (0xf9ee, 1, 0x71d0), (0xf9ef, 1, 0x7498),
  (0xf9f0, 1, 0x85fa), (0xf9f1, 1, 0x96a3), (0xf9f2, 1, 0x9c57), (0xf9f3, 1, 0x9e9f),
  (0xf9f4, 1, 0x6797), (0xf9f5, 1, 0x6dcb), (0xf9f6, 1, 0x81e8), (0xf9f7, 1, 0x7acb),
  (0xf9f8, 1, 0x7b20), (0xf9f9, 1, 0x7c92), (0xf9fa, 1, 0x72c0), (0xf9fb, 1, 0x7099),
  (0xf9fc, 1, 0x8b58), (0xf9fd, 1, 0x4ec0), (0xf9fe, 1, 0x8336), (0xf9ff, 1, 0x523a),
  (0xfa00, 1, 0x5207), (0xfa01, 1, 0x5ea6), (0xfa02, 1, 0x62d3), (0xfa03, 1, 0x7cd6),
  (0xfa04, 1, 0x5b85), (0xfa05, 1, 0x6d1e), (0xfa06, 1, 0x66b4), (0xfa07, 1, 0x8f3b),
  (0xfa08, 1, 0x884c), (0xfa09, 1, 0x964d), (0xfa0a, 1, 0x898b), (0xfa0b, 1, 0x5ed3),
  (0xfa0c, 1, 0x5140), (0xfa0d, 1, 0x55c0), (0xfa10, 1, 0x585a), (0xfa12, 1, 0x6674),
  (0xfa15, 1, 0x51de), (0xfa16, 1, 0x732a), (0xfa17, 1, 0x76ca), (0xfa18, 1, 0x793c),
  (0xfa19, 1, 0x795e), (0xfa1a, 1, 0x7965), (0xfa1b, 1, 0x798f), (0xfa1c, 1, 0x9756),
  (0xfa1d, 1, 0x7cbe), (0xfa1e, 1, 0x7fbd), (0xfa20, 1, 0x8612), (0xfa22, 1, 0x8af8),
  (0xfa25, 1, 0x9038), (0xfa26, 1, 0x90fd), (0xfa2a, 1, 0x98ef), (0xfa2b, 1, 0x98fc),
  (0xfa2c, 1, 0x9928), (0xfa2d, 1, 0x9db4), (0xfa2e, 1, 0x90de), (0xfa2f, 1, 0x96b7),
  (0xfa30, 1, 0x4fae), (0xfa31, 1, 0x50e7), (0xfa32, 1, 0x514d), (0xfa33, 1, 0x52c9),
  (0xfa34, 1, 0x52e4), (0xfa35, 1, 0x5351), (0xfa36, 1, 0x559d), (0xfa37, 1, 0x5606),
  (0xfa38, 1, 0x5668), (0xfa39, 1, 0x5840), (0xfa3a, 1, 0x58a8), (0xfa3b, 1, 0x5c64),
  (0xfa3c, 1, 0x5c6e), (0xfa3d, 1, 0x6094), (0xfa3e, 1, 0x6168), (0xfa3f, 1, 0x618e),
  (0xfa40, 1, 0x61f2), (0xfa41, 1, 0x654f), (0xfa42, 1, 0x65e2), (0xfa43, 1, 0x6691),
  (0xfa44, 1, 0x6885), (0xfa45, 1, 0x6d77), (0xfa46, 1, 0x6e1a), (0xfa47, 1, 0x6f22),
  (0xfa48, 1, 0x716e), (0xfa49, 1, 0x722b), (0xfa4a, 1, 0x7422), (0xfa4b, 1, 0x7891),
  (0xfa4c, 1, 0x793e), (0xfa4d, 1, 0x7949), (0xfa4e, 1, 0x7948), (0xfa4f, 1, 0x7950),
  (0xfa50, 1, 0x7956), (0xfa51, 1, 0x795d), (0xfa52, 2, 0x798d), (0xfa54, 1, 0x7a40),
  (0xfa55, 1, 0x7a81), (0xfa56, 1, 0x7bc0), (0xfa57, 1, 0x7df4), (0xfa58, 1, 0x7e09),
  (0xfa59, 1, 0x7e41), (0xfa5a, 1, 0x7f72), (0xfa5b, 1, 0x8005), (0xfa5c, 1, 0x81ed),
  (0xfa5d, 1, 0x8279), (0xfa5e, 1, 0x8279), (0xfa5f, 1, 0x8457), (0xfa60, 1, 0x8910),
  (0xfa61, 1, 0x8996), (0xfa62, 1, 0x8b01), (0xfa63, 1, 0x8b39), (0xfa64, 1, 0x8cd3),
  (0xfa65, 1, 0x8d08), (0xfa66, 1, 0x8fb6), (0xfa67, 1, 0x9038), (0xfa68, 1, 0x96e3),
  (0xfa69, 1, 0x97ff), (0xfa6a, 1, 0x983b), (0xfa6b, 1, 0x6075), (0xfa6c, 1, 0x242ee),
  (0xfa6d, 1, 0x8218), (0xfa70, 1, 0x4e26), (0xfa71, 1, 0x51b5), (0xfa72, 1, 0x5168),
  (0xfa73, 1, 0x4f80), (0xfa74, 1, 0x5145), (0xfa75, 1, 0x5180), (0xfa76, 1, 0x52c7),
  (0xfa77, 1, 0x52fa), (0xfa78, 1, 0x559d), (0xfa79, 1, 0x5555), (0xfa7a, 1, 0x5599),
  (0xfa7b, 1, 0x55e2), (0xfa7c, 1, 0x585a), (0xfa7d, 1, 0x58b3), (0xfa7e, 1, 0x5944),
  (0xfa7f, 1, 0x5954), (0xfa80, 1, 0x5a62), (0xfa81, 1, 0x5b28), (0xfa82, 1, 0x5ed2),
  (0xfa83, 1, 0x5ed9), (0xfa84, 1, 0x5f69), (0xfa85, 1, 0x5fad), (0xfa86, 1, 0x60d8),
  (0xfa87, 1, 0x614e), (0xfa88, 1, 0x6108), (0xfa89, 1, 0x618e), (0xfa8a, 1, 0x6160),
  (0xfa8b, 1, 0x61f2), (0xfa8c, 1, 0x6234), (0xfa8d, 1, 0x63c4), (0xfa8e, 1, 0x641c),
  (0xfa8f, 1, 0x6452), (0xfa90, 1, 0x6556), (0xfa91, 1, 0x6674), (0xfa92, 1, 0x6717),
  (0xfa93, 1, 0x671b), (0xfa94, 1, 0x6756), (0xfa95, 1, 0x6b79), (0xfa96, 1, 0x6bba),
  (0xfa97, 1, 0x6d41), (0xfa98, 1, 0x6edb), (0xfa99, 1, 0x6ecb), (0xfa9a, 1, 0x6f22),
  (0xfa9b, 1, 0x701e), (0xfa9c, 1, 0x716e), (0xfa9d, 1, 0x77a7), (0xfa9e, 1, 0x7235),
  (0xfa9f, 1, 0x72af), (0xfaa0, 1, 0x732a), (0xfaa1, 1, 0x7471), (0xfaa2, 1, 0x7506),
  (0xfaa3, 1, 0x753b), (0xfaa4, 1, 0x761d), (0xfaa5, 1, 0x761f), (0xfaa6, 1, 0x76ca),
  (0xfaa7, 1, 0x76db), (0xfaa8, 1, 0x76f4), (0xfaa9, 1, 0x774a), (0xfaaa, 1, 0x7740),
  (0xfaab, 1, 0x78cc), (0xfaac, 1, 0x7ab1), (0xfaad, 1, 0x7bc0), (0xfaae, 1, 0x7c7b),
  (0xfaaf, 1, 0x7d5b), (0xfab0, 1, 0x7df4), (0xfab1, 1, 0x7f3e), (0xfab2, 1, 0x8005),
  (0xfab3, 1, 0x8352), (0xfab4, 1, 0x83ef), (0xfab5, 1, 0x8779), (0xfab6, 1, 0x8941),
  (0xfab7, 1, 0x8986), (0xfab8, 1, 0x8996), (0xfab9, 1, 0x8abf), (0xfaba, 1, 0x8af8),
  (0xfabb, 1, 0x8acb), (0xfabc, 1, 0x8b01), (0xfabd, 1, 0x8afe), (0xfabe, 1, 0x8aed),
  (0xfabf, 1, 0x8b39), (0xfac0, 1, 0x8b8a), (0xfac1, 1, 0x8d08), (0xfac2, 1, 0x8f38),
  (0xfac3, 1, 0x9072), (0xfac4, 1, 0x9199), (0xfac5, 1, 0x9276), (0xfac6, 1, 0x967c),
  (0xfac7, 1, 0x96e3), (0xfac8, 1, 0x9756), (0xfac9, 1, 0x97db), (0xfaca, 1, 0x97ff),
  (0xfacb, 1, 0x980b), (0xfacc, 1, 0x983b), (0xfacd, 1, 0x9b12), (0xface, 1, 0x9f9c),
  (0xfacf, 1, 0x2284a), (0xfad0, 1, 0x22844), (0xfad1, 1, 0x233d5), (0xfad2, 1, 0x3b9d),
  (0xfad3, 1, 0x4018), (0xfad4, 1, 0x4039), (0xfad5, 1, 0x25249), (0xfad6, 1, 0x25cd0),
  (0xfad7, 1, 0x27ed3), (0xfad8, 1, 0x9f43), (0xfad9, 1, 0x9f8e)]

/-- Runs of letters in the form that they have at a place of a word, or of another width. -/
def replacedForms : List (Nat × Nat × Nat) := [
  (0xfb20, 1, 0x5e2), (0xfb21, 1, 0x5d0), (0xfb22, 2, 0x5d3), (0xfb24, 3, 0x5db),
  (0xfb27, 1, 0x5e8), (0xfb28, 1, 0x5ea), (0xfb50, 1, 0x671), (0xfb51, 1, 0x671),
  (0xfb52, 1, 0x67b), (0xfb53, 1, 0x67b), (0xfb54, 1, 0x67b), (0xfb55, 1, 0x67b),
  (0xfb56, 1, 0x67e), (0xfb57, 1, 0x67e), (0xfb58, 1, 0x67e), (0xfb59, 1, 0x67e),
  (0xfb5a, 1, 0x680), (0xfb5b, 1, 0x680), (0xfb5c, 1, 0x680), (0xfb5d, 1, 0x680),
  (0xfb5e, 1, 0x67a), (0xfb5f, 1, 0x67a), (0xfb60, 1, 0x67a), (0xfb61, 1, 0x67a),
  (0xfb62, 1, 0x67f), (0xfb63, 1, 0x67f), (0xfb64, 1, 0x67f), (0xfb65, 1, 0x67f),
  (0xfb66, 1, 0x679), (0xfb67, 1, 0x679), (0xfb68, 1, 0x679), (0xfb69, 1, 0x679),
  (0xfb6a, 1, 0x6a4), (0xfb6b, 1, 0x6a4), (0xfb6c, 1, 0x6a4), (0xfb6d, 1, 0x6a4),
  (0xfb6e, 1, 0x6a6), (0xfb6f, 1, 0x6a6), (0xfb70, 1, 0x6a6), (0xfb71, 1, 0x6a6),
  (0xfb72, 1, 0x684), (0xfb73, 1, 0x684), (0xfb74, 1, 0x684), (0xfb75, 1, 0x684),
  (0xfb76, 1, 0x683), (0xfb77, 1, 0x683), (0xfb78, 1, 0x683), (0xfb79, 1, 0x683),
  (0xfb7a, 1, 0x686), (0xfb7b, 1, 0x686), (0xfb7c, 1, 0x686), (0xfb7d, 2, 0x686),
  (0xfb7f, 1, 0x687), (0xfb80, 1, 0x687), (0xfb81, 1, 0x687), (0xfb82, 1, 0x68d),
  (0xfb83, 1, 0x68d), (0xfb84, 1, 0x68c), (0xfb85, 1, 0x68c), (0xfb86, 1, 0x68e),
  (0xfb87, 1, 0x68e), (0xfb88, 1, 0x688), (0xfb89, 1, 0x688), (0xfb8a, 1, 0x698),
  (0xfb8b, 1, 0x698), (0xfb8c, 1, 0x691), (0xfb8d, 1, 0x691), (0xfb8e, 1, 0x6a9),
  (0xfb8f, 1, 0x6a9), (0xfb90, 1, 0x6a9), (0xfb91, 1, 0x6a9), (0xfb92, 1, 0x6af),
  (0xfb93, 1, 0x6af), (0xfb94, 1, 0x6af), (0xfb95, 1, 0x6af), (0xfb96, 1, 0x6b3),
  (0xfb97, 1, 0x6b3), (0xfb98, 1, 0x6b3), (0xfb99, 1, 0x6b3), (0xfb9a, 1, 0x6b1),
  (0xfb9b, 1, 0x6b1), (0xfb9c, 1, 0x6b1), (0xfb9d, 1, 0x6b1), (0xfb9e, 1, 0x6ba),
  (0xfb9f, 2, 0x6ba), (0xfba1, 1, 0x6bb), (0xfba2, 1, 0x6bb), (0xfba3, 1, 0x6bb),
  (0xfba6, 1, 0x6c1), (0xfba7, 1, 0x6c1), (0xfba8, 1, 0x6c1), (0xfba9, 1, 0x6c1),
  (0xfbaa, 1, 0x6be), (0xfbab, 1, 0x6be), (0xfbac, 1, 0x6be), (0xfbad, 1, 0x6be),
  (0xfbae, 1, 0x6d2), (0xfbaf, 1, 0x6d2), (0xfbd3, 1, 0x6ad), (0xfbd4, 1, 0x6ad),
  (0xfbd5, 1, 0x6ad), (0xfbd6, 1, 0x6ad), (0xfbd7, 1, 0x6c7), (0xfbd8, 1, 0x6c7),
  (0xfbd9, 1, 0x6c6), (0xfbda, 1, 0x6c6), (0xfbdb, 1, 0x6c8), (0xfbdc, 1, 0x6c8),
  (0xfbde, 1, 0x6cb), (0xfbdf, 1, 0x6cb), (0xfbe0, 1, 0x6c5), (0xfbe1, 1, 0x6c5),
  (0xfbe2, 1, 0x6c9), (0xfbe3, 1, 0x6c9), (0xfbe4, 1, 0x6d0), (0xfbe5, 1, 0x6d0),
  (0xfbe6, 1, 0x6d0), (0xfbe7, 1, 0x6d0), (0xfbe8, 1, 0x649), (0xfbe9, 1, 0x649),
  (0xfbfc, 1, 0x6cc), (0xfbfd, 1, 0x6cc), (0xfbfe, 1, 0x6cc), (0xfbff, 1, 0x6cc),
  (0xfe33, 1, 0x5f), (0xfe34, 1, 0x5f), (0xfe4d, 1, 0x5f), (0xfe4e, 1, 0x5f), (0xfe4f, 1, 0x5f),
  (0xfe80, 1, 0x621), (0xfe8d, 1, 0x627), (0xfe8e, 2, 0x627), (0xfe90, 1, 0x628),
  (0xfe91, 1, 0x628), (0xfe92, 2, 0x628), (0xfe94, 2, 0x629), (0xfe96, 1, 0x62a),
  (0xfe97, 1, 0x62a), (0xfe98, 2, 0x62a), (0xfe9a, 1, 0x62b), (0xfe9b, 1, 0x62b),
  (0xfe9c, 2, 0x62b), (0xfe9e, 1, 0x62c), (0xfe9f, 1, 0x62c), (0xfea0, 2, 0x62c),
  (0xfea2, 1, 0x62d), (0xfea3, 1, 0x62d), (0xfea4, 2, 0x62d), (0xfea6, 1, 0x62e),
  (0xfea7, 1, 0x62e), (0xfea8, 2, 0x62e), (0xfeaa, 2, 0x62f), (0xfeac, 2, 0x630),
  (0xfeae, 2, 0x631), (0xfeb0, 2, 0x632), (0xfeb2, 1, 0x633), (0xfeb3, 1, 0x633),
  (0xfeb4, 2, 0x633), (0xfeb6, 1, 0x634), (0xfeb7, 1, 0x634), (0xfeb8, 2, 0x634),
  (0xfeba, 1, 0x635), (0xfebb, 1, 0x635), (0xfebc, 2, 0x635), (0xfebe, 1, 0x636),
  (0xfebf, 1, 0x636), (0xfec0, 2, 0x636), (0xfec2, 1, 0x637), (0xfec3, 1, 0x637),
  (0xfec4, 2, 0x637), (0xfec6, 1, 0x638), (0xfec7, 1, 0x638), (0xfec8, 2, 0x638),
  (0xfeca, 1, 0x639), (0xfecb, 1, 0x639), (0xfecc, 2, 0x639), (0xfece, 1, 0x63a),
  (0xfecf, 1, 0x63a), (0xfed0, 1, 0x63a), (0xfed1, 1, 0x641), (0xfed2, 1, 0x641),
  (0xfed3, 1, 0x641), (0xfed4, 2, 0x641), (0xfed6, 1, 0x642), (0xfed7, 1, 0x642),
  (0xfed8, 2, 0x642), (0xfeda, 1, 0x643), (0xfedb, 1, 0x643), (0xfedc, 2, 0x643),
  (0xfede, 1, 0x644), (0xfedf, 1, 0x644), (0xfee0, 2, 0x644), (0xfee2, 1, 0x645),
  (0xfee3, 1, 0x645), (0xfee4, 2, 0x645), (0xfee6, 1, 0x646), (0xfee7, 1, 0x646),
  (0xfee8, 2, 0x646), (0xfeea, 1, 0x647), (0xfeeb, 1, 0x647), (0xfeec, 2, 0x647),
  (0xfeee, 2, 0x648), (0xfef0, 2, 0x649), (0xfef2, 1, 0x64a), (0xfef3, 1, 0x64a),
  (0xfef4, 1, 0x64a), (0xff10, 10, 0x30), (0xff21, 26, 0x41), (0xff3f, 1, 0x5f),
  (0xff41, 26, 0x61), (0xff66, 1, 0x30f2), (0xff67, 1, 0x30a1), (0xff68, 1, 0x30a3),
  (0xff69, 1, 0x30a5), (0xff6a, 1, 0x30a7), (0xff6b, 1, 0x30a9), (0xff6c, 1, 0x30e3),
  (0xff6d, 1, 0x30e5), (0xff6e, 1, 0x30e7), (0xff6f, 1, 0x30c3), (0xff70, 1, 0x30fc),
  (0xff71, 1, 0x30a2), (0xff72, 1, 0x30a4), (0xff73, 1, 0x30a6), (0xff74, 1, 0x30a8),
  (0xff75, 2, 0x30aa), (0xff77, 1, 0x30ad), (0xff78, 1, 0x30af), (0xff79, 1, 0x30b1),
  (0xff7a, 1, 0x30b3), (0xff7b, 1, 0x30b5), (0xff7c, 1, 0x30b7), (0xff7d, 1, 0x30b9),
  (0xff7e, 1, 0x30bb), (0xff7f, 1, 0x30bd), (0xff80, 1, 0x30bf), (0xff81, 1, 0x30c1),
  (0xff82, 1, 0x30c4), (0xff83, 1, 0x30c6), (0xff84, 1, 0x30c8), (0xff85, 6, 0x30ca),
  (0xff8b, 1, 0x30d2), (0xff8c, 1, 0x30d5), (0xff8d, 1, 0x30d8), (0xff8e, 1, 0x30db),
  (0xff8f, 5, 0x30de), (0xff94, 1, 0x30e4), (0xff95, 1, 0x30e6), (0xff96, 6, 0x30e8),
  (0xff9c, 1, 0x30ef), (0xff9d, 1, 0x30f3), (0xff9e, 2, 0x3099), (0xffa0, 1, 0x1160),
  (0xffa1, 2, 0x1100), (0xffa3, 1, 0x11aa), (0xffa4, 1, 0x1102), (0xffa5, 2, 0x11ac),
  (0xffa7, 3, 0x1103), (0xffaa, 6, 0x11b0), (0xffb0, 1, 0x111a), (0xffb1, 3, 0x1106),
  (0xffb4, 1, 0x1121), (0xffb5, 10, 0x1109), (0xffc2, 6, 0x1161), (0xffca, 6, 0x1167),
  (0xffd2, 6, 0x116d), (0xffda, 3, 0x1173)]

/-- Runs of letters and digits of another style. -/
def replacedStyles : List (Nat × Nat × Nat) := [
  (0x10781, 2, 0x2d0), (0x10783, 1, 0xe6), (0x10784, 1, 0x299), (0x10785, 1, 0x253),
  (0x10787, 1, 0x2a3), (0x10788, 1, 0xab66), (0x10789, 1, 0x2a5), (0x1078a, 1, 0x2a4),
  (0x1078b, 2, 0x256), (0x1078d, 1, 0x1d91), (0x1078e, 1, 0x258), (0x1078f, 1, 0x25e),
  (0x10790, 1, 0x2a9), (0x10791, 1, 0x264), (0x10792, 1, 0x262), (0x10793, 1, 0x260),
  (0x10794, 1, 0x29b), (0x10795, 1, 0x127), (0x10796, 1, 0x29c), (0x10797, 1, 0x267),
  (0x10798, 1, 0x284), (0x10799, 2, 0x2aa), (0x1079b, 1, 0x26c), (0x1079c, 1, 0x1df04),
  (0x1079d, 1, 0xa78e), (0x1079e, 1, 0x26e), (0x1079f, 1, 0x1df05), (0x107a0, 1, 0x28e),
  (0x107a1, 1, 0x1df06), (0x107a2, 1, 0xf8), (0x107a3, 2, 0x276), (0x107a5, 1, 0x71),
  (0x107a6, 1, 0x27a), (0x107a7, 1, 0x1df08), (0x107a8, 2, 0x27d), (0x107aa, 1, 0x280),
  (0x107ab, 1, 0x2a8), (0x107ac, 1, 0x2a6), (0x107ad, 1, 0xab67), (0x107ae, 1, 0x2a7),
  (0x107af, 1, 0x288), (0x107b0, 1, 0x2c71), (0x107b2, 1, 0x28f), (0x107b3, 2, 0x2a1),
  (0x107b5, 1, 0x298), (0x107b6, 3, 0x1c0), (0x107b9, 1, 0x1df0a), (0x107ba, 1, 0x1df1e),
  (0x1d400, 26, 0x41), (0x1d41a, 26, 0x61), (0x1d434, 26, 0x41), (0x1d44e, 7, 0x61),
  (0x1d456, 18, 0x69), (0x1d468, 26, 0x41), (0x1d482, 26, 0x61), (0x1d49c, 1, 0x41),
  (0x1d49e, 2, 0x43), (0x1d4a2, 1, 0x47), (0x1d4a5, 2, 0x4a), (0x1d4a9, 4, 0x4e),
  (0x1d4ae, 8, 0x53), (0x1d4b6, 4, 0x61), (0x1d4bb, 1, 0x66), (0x1d4bd, 7, 0x68),
  (0x1d4c5, 11, 0x70), (0x1d4d0, 26, 0x41), (0x1d4ea, 26, 0x61), (0x1d504, 2, 0x41),
  (0x1d507, 4, 0x44), (0x1d50d, 8, 0x4a), (0x1d516, 7, 0x53), (0x1d51e, 26, 0x61),
  (0x1d538, 2, 0x41), (0x1d53b, 4, 0x44), (0x1d540, 5, 0x49), (0x1d546, 1, 0x4f),
  (0x1d54a, 7, 0x53), (0x1d552, 26, 0x61), (0x1d56c, 26, 0x41), (0x1d586, 26, 0x61),
  (0x1d5a0, 26, 0x41), (0x1d5ba, 26, 0x61), (0x1d5d4, 26, 0x41), (0x1d5ee, 26, 0x61),
  (0x1d608, 26, 0x41), (0x1d622, 26, 0x61), (0x1d63c, 26, 0x41), (0x1d656, 26, 0x61),
  (0x1d670, 26, 0x41), (0x1d68a, 26, 0x61), (0x1d6a4, 1, 0x131), (0x1d6a5, 1, 0x237),
  (0x1d6a8, 17, 0x391), (0x1d6b9, 1, 0x398), (0x1d6ba, 7, 0x3a3), (0x1d6c2, 25, 0x3b1),
  (0x1d6dc, 1, 0x3b5), (0x1d6dd, 1, 0x3b8), (0x1d6de, 1, 0x3ba), (0x1d6df, 1, 0x3c6),
  (0x1d6e0, 1, 0x3c1), (0x1d6e1, 1, 0x3c0), (0x1d6e2, 17, 0x391), (0x1d6f3, 1, 0x398),
  (0x1d6f4, 7, 0x3a3), (0x1d6fc, 25, 0x3b1), (0x1d716, 1, 0x3b5), (0x1d717, 1, 0x3b8),
  (0x1d718, 1, 0x3ba), (0x1d719, 1, 0x3c6), (0x1d71a, 1, 0x3c1), (0x1d71b, 1, 0x3c0),
  (0x1d71c, 17, 0x391), (0x1d72d, 1, 0x398), (0x1d72e, 7, 0x3a3), (0x1d736, 25, 0x3b1),
  (0x1d750, 1, 0x3b5), (0x1d751, 1, 0x3b8), (0x1d752, 1, 0x3ba), (0x1d753, 1, 0x3c6),
  (0x1d754, 1, 0x3c1), (0x1d755, 1, 0x3c0), (0x1d756, 17, 0x391), (0x1d767, 1, 0x398),
  (0x1d768, 7, 0x3a3), (0x1d770, 25, 0x3b1), (0x1d78a, 1, 0x3b5), (0x1d78b, 1, 0x3b8),
  (0x1d78c, 1, 0x3ba), (0x1d78d, 1, 0x3c6), (0x1d78e, 1, 0x3c1), (0x1d78f, 1, 0x3c0),
  (0x1d790, 17, 0x391), (0x1d7a1, 1, 0x398), (0x1d7a2, 7, 0x3a3), (0x1d7aa, 25, 0x3b1),
  (0x1d7c4, 1, 0x3b5), (0x1d7c5, 1, 0x3b8), (0x1d7c6, 1, 0x3ba), (0x1d7c7, 1, 0x3c6),
  (0x1d7c8, 1, 0x3c1), (0x1d7c9, 1, 0x3c0), (0x1d7ca, 2, 0x3dc), (0x1d7ce, 10, 0x30),
  (0x1d7d8, 10, 0x30), (0x1d7e2, 10, 0x30), (0x1d7ec, 10, 0x30), (0x1d7f6, 10, 0x30),
  (0x1ee00, 2, 0x627), (0x1ee02, 1, 0x62c), (0x1ee03, 1, 0x62f), (0x1ee05, 1, 0x648),
  (0x1ee06, 1, 0x632), (0x1ee07, 1, 0x62d), (0x1ee08, 1, 0x637), (0x1ee09, 1, 0x64a),
  (0x1ee0a, 4, 0x643), (0x1ee0e, 1, 0x633), (0x1ee0f, 1, 0x639), (0x1ee10, 1, 0x641),
  (0x1ee11, 1, 0x635), (0x1ee12, 1, 0x642), (0x1ee13, 1, 0x631), (0x1ee14, 1, 0x634),
  (0x1ee15, 2, 0x62a), (0x1ee17, 1, 0x62e), (0x1ee18, 1, 0x630), (0x1ee19, 1, 0x636),
  (0x1ee1a, 1, 0x638), (0x1ee1b, 1, 0x63a), (0x1ee1c, 1, 0x66e), (0x1ee1d, 1, 0x6ba),
  (0x1ee1e, 1, 0x6a1), (0x1ee1f, 1, 0x66f), (0x1ee21, 1, 0x628), (0x1ee22, 1, 0x62c),
  (0x1ee24, 1, 0x647), (0x1ee27, 1, 0x62d), (0x1ee29, 1, 0x64a), (0x1ee2a, 4, 0x643),
  (0x1ee2e, 1, 0x633), (0x1ee2f, 1, 0x639), (0x1ee30, 1, 0x641), (0x1ee31, 1, 0x635),
  (0x1ee32, 1, 0x642), (0x1ee34, 1, 0x634), (0x1ee35, 2, 0x62a), (0x1ee37, 1, 0x62e),
  (0x1ee39, 1, 0x636), (0x1ee3b, 1, 0x63a), (0x1ee42, 1, 0x62c), (0x1ee47, 1, 0x62d),
  (0x1ee49, 1, 0x64a), (0x1ee4b, 1, 0x644), (0x1ee4d, 1, 0x646), (0x1ee4e, 1, 0x633),
  (0x1ee4f, 1, 0x639), (0x1ee51, 1, 0x635), (0x1ee52, 1, 0x642), (0x1ee54, 1, 0x634),
  (0x1ee57, 1, 0x62e), (0x1ee59, 1, 0x636), (0x1ee5b, 1, 0x63a), (0x1ee5d, 1, 0x6ba),
  (0x1ee5f, 1, 0x66f), (0x1ee61, 1, 0x628), (0x1ee62, 1, 0x62c), (0x1ee64, 1, 0x647),
  (0x1ee67, 1, 0x62d), (0x1ee68, 1, 0x637), (0x1ee69, 1, 0x64a), (0x1ee6a, 1, 0x643),
  (0x1ee6c, 2, 0x645), (0x1ee6e, 1, 0x633), (0x1ee6f, 1, 0x639), (0x1ee70, 1, 0x641),
  (0x1ee71, 1, 0x635), (0x1ee72, 1, 0x642), (0x1ee74, 1, 0x634), (0x1ee75, 2, 0x62a),
  (0x1ee77, 1, 0x62e), (0x1ee79, 1, 0x636), (0x1ee7a, 1, 0x638), (0x1ee7b, 1, 0x63a),
  (0x1ee7c, 1, 0x66e), (0x1ee7e, 1, 0x6a1), (0x1ee80, 2, 0x627), (0x1ee82, 1, 0x62c),
  (0x1ee83, 1, 0x62f), (0x1ee84, 2, 0x647), (0x1ee86, 1, 0x632), (0x1ee87, 1, 0x62d),
  (0x1ee88, 1, 0x637), (0x1ee89, 1, 0x64a), (0x1ee8b, 3, 0x644), (0x1ee8e, 1, 0x633),
  (0x1ee8f, 1, 0x639), (0x1ee90, 1, 0x641), (0x1ee91, 1, 0x635), (0x1ee92, 1, 0x642),
  (0x1ee93, 1, 0x631), (0x1ee94, 1, 0x634), (0x1ee95, 2, 0x62a), (0x1ee97, 1, 0x62e),
  (0x1ee98, 1, 0x630), (0x1ee99, 1, 0x636), (0x1ee9a, 1, 0x638), (0x1ee9b, 1, 0x63a),
  (0x1eea1, 1, 0x628), (0x1eea2, 1, 0x62c), (0x1eea3, 1, 0x62f), (0x1eea5, 1, 0x648),
  (0x1eea6, 1, 0x632), (0x1eea7, 1, 0x62d), (0x1eea8, 1, 0x637), (0x1eea9, 1, 0x64a),
  (0x1eeab, 3, 0x644), (0x1eeae, 1, 0x633), (0x1eeaf, 1, 0x639), (0x1eeb0, 1, 0x641),
  (0x1eeb1, 1, 0x635), (0x1eeb2, 1, 0x642), (0x1eeb3, 1, 0x631), (0x1eeb4, 1, 0x634),
  (0x1eeb5, 2, 0x62a), (0x1eeb7, 1, 0x62e), (0x1eeb8, 1, 0x630), (0x1eeb9, 1, 0x636),
  (0x1eeba, 1, 0x638), (0x1eebb, 1, 0x63a), (0x1fbf0, 10, 0x30)]

/-- Runs of further ideographs that have two codes. -/
def replacedFurtherIdeographs : List (Nat × Nat × Nat) := [
  (0x2f800, 1, 0x4e3d), (0x2f801, 1, 0x4e38), (0x2f802, 1, 0x4e41), (0x2f803, 1, 0x20122),
  (0x2f804, 1, 0x4f60), (0x2f805, 1, 0x4fae), (0x2f806, 1, 0x4fbb), (0x2f807, 1, 0x5002),
  (0x2f808, 1, 0x507a), (0x2f809, 1, 0x5099), (0x2f80a, 1, 0x50e7), (0x2f80b, 1, 0x50cf),
  (0x2f80c, 1, 0x349e), (0x2f80d, 1, 0x2063a), (0x2f80e, 1, 0x514d), (0x2f80f, 1, 0x5154),
  (0x2f810, 1, 0x5164), (0x2f811, 1, 0x5177), (0x2f812, 1, 0x2051c), (0x2f813, 1, 0x34b9),
  (0x2f814, 1, 0x5167), (0x2f815, 1, 0x518d), (0x2f816, 1, 0x2054b), (0x2f817, 1, 0x5197),
  (0x2f818, 1, 0x51a4), (0x2f819, 1, 0x4ecc), (0x2f81a, 1, 0x51ac), (0x2f81b, 1, 0x51b5),
  (0x2f81c, 1, 0x291df), (0x2f81d, 1, 0x51f5), (0x2f81e, 1, 0x5203), (0x2f81f, 1, 0x34df),
  (0x2f820, 1, 0x523b), (0x2f821, 1, 0x5246), (0x2f822, 1, 0x5272), (0x2f823, 1, 0x5277),
  (0x2f824, 1, 0x3515), (0x2f825, 1, 0x52c7), (0x2f826, 1, 0x52c9), (0x2f827, 1, 0x52e4),
  (0x2f828, 1, 0x52fa), (0x2f829, 2, 0x5305), (0x2f82b, 1, 0x5317), (0x2f82c, 1, 0x5349),
  (0x2f82d, 1, 0x5351), (0x2f82e, 1, 0x535a), (0x2f82f, 1, 0x5373), (0x2f830, 1, 0x537d),
  (0x2f831, 1, 0x537f), (0x2f832, 1, 0x537f), (0x2f833, 1, 0x537f), (0x2f834, 1, 0x20a2c),
  (0x2f835, 1, 0x7070), (0x2f836, 1, 0x53ca), (0x2f837, 1, 0x53df), (0x2f838, 1, 0x20b63),
  (0x2f839, 1, 0x53eb), (0x2f83a, 1, 0x53f1), (0x2f83b, 1, 0x5406), (0x2f83c, 1, 0x549e),
  (0x2f83d, 1, 0x5438), (0x2f83e, 1, 0x5448), (0x2f83f, 1, 0x5468), (0x2f840, 1, 0x54a2),
  (0x2f841, 1, 0x54f6), (0x2f842, 1, 0x5510), (0x2f843, 1, 0x5553), (0x2f844, 1, 0x5563),
  (0x2f845, 1, 0x5584), (0x2f846, 1, 0x5584), (0x2f847, 1, 0x5599), (0x2f848, 1, 0x55ab),
  (0x2f849, 1, 0x55b3), (0x2f84a, 1, 0x55c2), (0x2f84b, 1, 0x5716), (0x2f84c, 1, 0x5606),
  (0x2f84d, 1, 0x5717), (0x2f84e, 1, 0x5651), (0x2f84f, 1, 0x5674), (0x2f850, 1, 0x5207),
  (0x2f851, 1, 0x58ee), (0x2f852, 1, 0x57ce), (0x2f853, 1, 0x57f4), (0x2f854, 1, 0x580d),
  (0x2f855, 1, 0x578b), (0x2f856, 1, 0x5832), (0x2f857, 1, 0x5831), (0x2f858, 1, 0x58ac),
  (0x2f859, 1, 0x214e4), (0x2f85a, 1, 0x58f2), (0x2f85b, 1, 0x58f7), (0x2f85c, 1, 0x5906),
  (0x2f85d, 1, 0x591a), (0x2f85e, 1, 0x5922), (0x2f85f, 1, 0x5962), (0x2f860, 1, 0x216a8),
  (0x2f861, 1, 0x216ea), (0x2f862, 1, 0x59ec), (0x2f863, 1, 0x5a1b), (0x2f864, 1, 0x5a27),
  (0x2f865, 1, 0x59d8), (0x2f866, 1, 0x5a66), (0x2f867, 1, 0x36ee), (0x2f868, 1, 0x36fc),
  (0x2f869, 1, 0x5b08), (0x2f86a, 1, 0x5b3e), (0x2f86b, 1, 0x5b3e), (0x2f86c, 1, 0x219c8),
  (0x2f86d, 1, 0x5bc3), (0x2f86e, 1, 0x5bd8), (0x2f86f, 1, 0x5be7), (0x2f870, 1, 0x5bf3),
  (0x2f871, 1, 0x21b18), (0x2f872, 1, 0x5bff), (0x2f873, 1, 0x5c06), (0x2f874, 1, 0x5f53),
  (0x2f875, 1, 0x5c22), (0x2f876, 1, 0x3781), (0x2f877, 1, 0x5c60), (0x2f878, 1, 0x5c6e),
  (0x2f879, 1, 0x5cc0), (0x2f87a, 1, 0x5c8d), (0x2f87b, 1, 0x21de4), (0x2f87c, 1, 0x5d43),
  (0x2f87d, 1, 0x21de6), (0x2f87e, 1, 0x5d6e), (0x2f87f, 1, 0x5d6b), (0x2f880, 1, 0x5d7c),
  (0x2f881, 2, 0x5de1), (0x2f883, 1, 0x382f), (0x2f884, 1, 0x5dfd), (0x2f885, 1, 0x5e28),
  (0x2f886, 1, 0x5e3d), (0x2f887, 1, 0x5e69), (0x2f888, 1, 0x3862), (0x2f889, 1, 0x22183),
  (0x2f88a, 1, 0x387c), (0x2f88b, 1, 0x5eb0), (0x2f88c, 1, 0x5eb3), (0x2f88d, 1, 0x5eb6),
  (0x2f88e, 1, 0x5eca), (0x2f88f, 1, 0x2a392), (0x2f890, 1, 0x5efe), (0x2f891, 1, 0x22331),
  (0x2f892, 1, 0x22331), (0x2f893, 1, 0x8201), (0x2f894, 1, 0x5f22), (0x2f895, 1, 0x5f22),
  (0x2f896, 1, 0x38c7), (0x2f897, 1, 0x232b8), (0x2f898, 1, 0x261da), (0x2f899, 1, 0x5f62),
  (0x2f89a, 1, 0x5f6b), (0x2f89b, 1, 0x38e3), (0x2f89c, 1, 0x5f9a), (0x2f89d, 1, 0x5fcd),
  (0x2f89e, 1, 0x5fd7), (0x2f89f, 1, 0x5ff9), (0x2f8a0, 1, 0x6081), (0x2f8a1, 1, 0x393a),
  (0x2f8a2, 1, 0x391c), (0x2f8a3, 1, 0x6094), (0x2f8a4, 1, 0x226d4), (0x2f8a5, 1, 0x60c7),
  (0x2f8a6, 1, 0x6148), (0x2f8a7, 1, 0x614c), (0x2f8a8, 1, 0x614e), (0x2f8a9, 1, 0x614c),
  (0x2f8aa, 1, 0x617a), (0x2f8ab, 1, 0x618e), (0x2f8ac, 1, 0x61b2), (0x2f8ad, 1, 0x61a4),
  (0x2f8ae, 1, 0x61af), (0x2f8af, 1, 0x61de), (0x2f8b0, 1, 0x61f2), (0x2f8b1, 1, 0x61f6),
  (0x2f8b2, 1, 0x6210), (0x2f8b3, 1, 0x621b), (0x2f8b4, 1, 0x625d), (0x2f8b5, 1, 0x62b1),
  (0x2f8b6, 1, 0x62d4), (0x2f8b7, 1, 0x6350), (0x2f8b8, 1, 0x22b0c), (0x2f8b9, 1, 0x633d),
  (0x2f8ba, 1, 0x62fc), (0x2f8bb, 1, 0x6368), (0x2f8bc, 1, 0x6383), (0x2f8bd, 1, 0x63e4),
  (0x2f8be, 1, 0x22bf1), (0x2f8bf, 1, 0x6422), (0x2f8c0, 1, 0x63c5), (0x2f8c1, 1, 0x63a9),
  (0x2f8c2, 1, 0x3a2e), (0x2f8c3, 1, 0x6469), (0x2f8c4, 1, 0x647e), (0x2f8c5, 1, 0x649d),
  (0x2f8c6, 1, 0x6477), (0x2f8c7, 1, 0x3a6c), (0x2f8c8, 1, 0x654f), (0x2f8c9, 1, 0x656c),
  (0x2f8ca, 1, 0x2300a), (0x2f8cb, 1, 0x65e3), (0x2f8cc, 1, 0x66f8), (0x2f8cd, 1, 0x6649),
  (0x2f8ce, 1, 0x3b19), (0x2f8cf, 1, 0x6691), (0x2f8d0, 1, 0x3b08), (0x2f8d1, 1, 0x3ae4),
  (0x2f8d2, 1, 0x5192), (0x2f8d3, 1, 0x5195), (0x2f8d4, 1, 0x6700), (0x2f8d5, 1, 0x669c),
  (0x2f8d6, 1, 0x80ad), (0x2f8d7, 1, 0x43d9), (0x2f8d8, 1, 0x6717), (0x2f8d9, 1, 0x671b),
  (0x2f8da, 1, 0x6721), (0x2f8db, 1, 0x675e), (0x2f8dc, 1, 0x6753), (0x2f8dd, 1, 0x233c3),
  (0x2f8de, 1, 0x3b49), (0x2f8df, 1, 0x67fa), (0x2f8e0, 1, 0x6785), (0x2f8e1, 1, 0x6852),
  (0x2f8e2, 1, 0x6885), (0x2f8e3, 1, 0x2346d), (0x2f8e4, 1, 0x688e), (0x2f8e5, 1, 0x681f),
  (0x2f8e6, 1, 0x6914), (0x2f8e7, 1, 0x3b9d), (0x2f8e8, 1, 0x6942), (0x2f8e9, 1, 0x69a3),
  (0x2f8ea, 1, 0x69ea), (0x2f8eb, 1, 0x6aa8), (0x2f8ec, 1, 0x236a3), (0x2f8ed, 1, 0x6adb),
  (0x2f8ee, 1, 0x3c18), (0x2f8ef, 1, 0x6b21), (0x2f8f0, 1, 0x238a7), (0x2f8f1, 1, 0x6b54),
  (0x2f8f2, 1, 0x3c4e), (0x2f8f3, 1, 0x6b72), (0x2f8f4, 1, 0x6b9f), (0x2f8f5, 2, 0x6bba),
  (0x2f8f7, 1, 0x23a8d), (0x2f8f8, 1, 0x21d0b), (0x2f8f9, 1, 0x23afa), (0x2f8fa, 1, 0x6c4e),
  (0x2f8fb, 1, 0x23cbc), (0x2f8fc, 1, 0x6cbf), (0x2f8fd, 1, 0x6ccd), (0x2f8fe, 1, 0x6c67),
  (0x2f8ff, 1, 0x6d16), (0x2f900, 1, 0x6d3e), (0x2f901, 1, 0x6d77), (0x2f902, 1, 0x6d41),
  (0x2f903, 1, 0x6d69), (0x2f904, 1, 0x6d78), (0x2f905, 1, 0x6d85), (0x2f906, 1, 0x23d1e),
  (0x2f907, 1, 0x6d34), (0x2f908, 1, 0x6e2f), (0x2f909, 1, 0x6e6e), (0x2f90a, 1, 0x3d33),
  (0x2f90b, 1, 0x6ecb), (0x2f90c, 1, 0x6ec7), (0x2f90d, 1, 0x23ed1), (0x2f90e, 1, 0x6df9),
  (0x2f90f, 1, 0x6f6e), (0x2f910, 1, 0x23f5e), (0x2f911, 1, 0x23f8e), (0x2f912, 1, 0x6fc6),
  (0x2f913, 1, 0x7039), (0x2f914, 1, 0x701e), (0x2f915, 1, 0x701b), (0x2f916, 1, 0x3d96),
  (0x2f917, 1, 0x704a), (0x2f918, 1, 0x707d), (0x2f919, 1, 0x7077), (0x2f91a, 1, 0x70ad),
  (0x2f91b, 1, 0x20525), (0x2f91c, 1, 0x7145), (0x2f91d, 1, 0x24263), (0x2f91e, 1, 0x719c),
  (0x2f91f, 1, 0x243ab), (0x2f920, 1, 0x7228), (0x2f921, 1, 0x7235), (0x2f922, 1, 0x7250),
  (0x2f923, 1, 0x24608), (0x2f924, 1, 0x7280), (0x2f925, 1, 0x7295), (0x2f926, 1, 0x24735),
  (0x2f927, 1, 0x24814), (0x2f928, 1, 0x737a), (0x2f929, 1, 0x738b), (0x2f92a, 1, 0x3eac),
  (0x2f92b, 1, 0x73a5), (0x2f92c, 1, 0x3eb8), (0x2f92d, 1, 0x3eb8), (0x2f92e, 1, 0x7447),
  (0x2f92f, 1, 0x745c), (0x2f930, 1, 0x7471), (0x2f931, 1, 0x7485), (0x2f932, 1, 0x74ca),
  (0x2f933, 1, 0x3f1b), (0x2f934, 1, 0x7524), (0x2f935, 1, 0x24c36), (0x2f936, 1, 0x753e),
  (0x2f937, 1, 0x24c92), (0x2f938, 1, 0x7570), (0x2f939, 1, 0x2219f), (0x2f93a, 1, 0x7610),
  (0x2f93b, 1, 0x24fa1), (0x2f93c, 1, 0x24fb8), (0x2f93d, 1, 0x25044), (0x2f93e, 1, 0x3ffc),
  (0x2f93f, 1, 0x4008), (0x2f940, 1, 0x76f4), (0x2f941, 1, 0x250f3), (0x2f942, 1, 0x250f2),
  (0x2f943, 1, 0x25119), (0x2f944, 1, 0x25133), (0x2f945, 2, 0x771e), (0x2f947, 1, 0x771f),
  (0x2f948, 1, 0x774a), (0x2f949, 1, 0x4039), (0x2f94a, 1, 0x778b), (0x2f94b, 1, 0x4046),
  (0x2f94c, 1, 0x4096), (0x2f94d, 1, 0x2541d), (0x2f94e, 1, 0x784e), (0x2f94f, 1, 0x788c),
  (0x2f950, 1, 0x78cc), (0x2f951, 1, 0x40e3), (0x2f952, 1, 0x25626), (0x2f953, 1, 0x7956),
  (0x2f954, 1, 0x2569a), (0x2f955, 1, 0x256c5), (0x2f956, 1, 0x798f), (0x2f957, 1, 0x79eb),
  (0x2f958, 1, 0x412f), (0x2f959, 1, 0x7a40), (0x2f95a, 1, 0x7a4a), (0x2f95b, 1, 0x7a4f),
  (0x2f95c, 1, 0x2597c), (0x2f95d, 1, 0x25aa7), (0x2f95e, 1, 0x25aa7), (0x2f95f, 1, 0x7aee),
  (0x2f960, 1, 0x4202), (0x2f961, 1, 0x25bab), (0x2f962, 1, 0x7bc6), (0x2f963, 1, 0x7bc9),
  (0x2f964, 1, 0x4227), (0x2f965, 1, 0x25c80), (0x2f966, 1, 0x7cd2), (0x2f967, 1, 0x42a0),
  (0x2f968, 1, 0x7ce8), (0x2f969, 1, 0x7ce3), (0x2f96a, 1, 0x7d00), (0x2f96b, 1, 0x25f86),
  (0x2f96c, 1, 0x7d63), (0x2f96d, 1, 0x4301), (0x2f96e, 1, 0x7dc7), (0x2f96f, 1, 0x7e02),
  (0x2f970, 1, 0x7e45), (0x2f971, 1, 0x4334), (0x2f972, 1, 0x26228), (0x2f973, 1, 0x26247),
  (0x2f974, 1, 0x4359), (0x2f975, 1, 0x262d9), (0x2f976, 1, 0x7f7a), (0x2f977, 1, 0x2633e),
  (0x2f978, 1, 0x7f95), (0x2f979, 1, 0x7ffa), (0x2f97a, 1, 0x8005), (0x2f97b, 1, 0x264da),
  (0x2f97c, 1, 0x26523), (0x2f97d, 1, 0x8060), (0x2f97e, 1, 0x265a8), (0x2f97f, 1, 0x8070),
  (0x2f980, 1, 0x2335f), (0x2f981, 1, 0x43d5), (0x2f982, 1, 0x80b2), (0x2f983, 1, 0x8103),
  (0x2f984, 1, 0x440b), (0x2f985, 1, 0x813e), (0x2f986, 1, 0x5ab5), (0x2f987, 1, 0x267a7),
  (0x2f988, 1, 0x267b5), (0x2f989, 1, 0x23393), (0x2f98a, 1, 0x2339c), (0x2f98b, 1, 0x8201),
  (0x2f98c, 1, 0x8204), (0x2f98d, 1, 0x8f9e), (0x2f98e, 1, 0x446b), (0x2f98f, 1, 0x8291),
  (0x2f990, 1, 0x828b), (0x2f991, 1, 0x829d), (0x2f992, 1, 0x52b3), (0x2f993, 1, 0x82b1),
  (0x2f994, 1, 0x82b3), (0x2f995, 1, 0x82bd), (0x2f996, 1, 0x82e6), (0x2f997, 1, 0x26b3c),
  (0x2f998, 1, 0x82e5), (0x2f999, 1, 0x831d), (0x2f99a, 1, 0x8363), (0x2f99b, 1, 0x83ad),
  (0x2f99c, 1, 0x8323), (0x2f99d, 1, 0x83bd), (0x2f99e, 1, 0x83e7), (0x2f99f, 1, 0x8457),
  (0x2f9a0, 1, 0x8353), (0x2f9a1, 1, 0x83ca), (0x2f9a2, 1, 0x83cc), (0x2f9a3, 1, 0x83dc),
  (0x2f9a4, 1, 0x26c36), (0x2f9a5, 1, 0x26d6b), (0x2f9a6, 1, 0x26cd5), (0x2f9a7, 1, 0x452b),
  (0x2f9a8, 1, 0x84f1), (0x2f9a9, 1, 0x84f3), (0x2f9aa, 1, 0x8516), (0x2f9ab, 1, 0x273ca),
  (0x2f9ac, 1, 0x8564), (0x2f9ad, 1, 0x26f2c), (0x2f9ae, 1, 0x455d), (0x2f9af, 1, 0x4561),
  (0x2f9b0, 1, 0x26fb1), (0x2f9b1, 1, 0x270d2), (0x2f9b2, 1, 0x456b), (0x2f9b3, 1, 0x8650),
  (0x2f9b4, 1, 0x865c), (0x2f9b5, 1, 0x8667), (0x2f9b6, 1, 0x8669), (0x2f9b7, 1, 0x86a9),
  (0x2f9b8, 1, 0x8688), (0x2f9b9, 1, 0x870e), (0x2f9ba, 1, 0x86e2), (0x2f9bb, 1, 0x8779),
  (0x2f9bc, 1, 0x8728), (0x2f9bd, 1, 0x876b), (0x2f9be, 1, 0x8786), (0x2f9bf, 1, 0x45d7),
  (0x2f9c0, 1, 0x87e1), (0x2f9c1, 1, 0x8801), (0x2f9c2, 1, 0x45f9), (0x2f9c3, 1, 0x8860),
  (0x2f9c4, 1, 0x8863), (0x2f9c5, 1, 0x27667), (0x2f9c6, 1, 0x88d7), (0x2f9c7, 1, 0x88de),
  (0x2f9c8, 1, 0x4635), (0x2f9c9, 1, 0x88fa), (0x2f9ca, 1, 0x34bb), (0x2f9cb, 1, 0x278ae),
  (0x2f9cc, 1, 0x27966), (0x2f9cd, 1, 0x46be), (0x2f9ce, 1, 0x46c7), (0x2f9cf, 1, 0x8aa0),
  (0x2f9d0, 1, 0x8aed), (0x2f9d1, 1, 0x8b8a), (0x2f9d2, 1, 0x8c55), (0x2f9d3, 1, 0x27ca8),
  (0x2f9d4, 1, 0x8cab), (0x2f9d5, 1, 0x8cc1), (0x2f9d6, 1, 0x8d1b), (0x2f9d7, 1, 0x8d77),
  (0x2f9d8, 1, 0x27f2f), (0x2f9d9, 1, 0x20804), (0x2f9da, 1, 0x8dcb), (0x2f9db, 1, 0x8dbc),
  (0x2f9dc, 1, 0x8df0), (0x2f9dd, 1, 0x208de), (0x2f9de, 1, 0x8ed4), (0x2f9df, 1, 0x8f38),
  (0x2f9e0, 1, 0x285d2), (0x2f9e1, 1, 0x285ed), (0x2f9e2, 1, 0x9094), (0x2f9e3, 1, 0x90f1),
  (0x2f9e4, 1, 0x9111), (0x2f9e5, 1, 0x2872e), (0x2f9e6, 1, 0x911b), (0x2f9e7, 1, 0x9238),
  (0x2f9e8, 2, 0x92d7), (0x2f9ea, 1, 0x927c), (0x2f9eb, 1, 0x93f9), (0x2f9ec, 1, 0x9415),
  (0x2f9ed, 1, 0x28bfa), (0x2f9ee, 1, 0x958b), (0x2f9ef, 1, 0x4995), (0x2f9f0, 1, 0x95b7),
  (0x2f9f1, 1, 0x28d77), (0x2f9f2, 1, 0x49e6), (0x2f9f3, 1, 0x96c3), (0x2f9f4, 1, 0x5db2),
  (0x2f9f5, 1, 0x9723), (0x2f9f6, 1, 0x29145), (0x2f9f7, 1, 0x2921a), (0x2f9f8, 1, 0x4a6e),
  (0x2f9f9, 1, 0x4a76), (0x2f9fa, 1, 0x97e0), (0x2f9fb, 1, 0x2940a), (0x2f9fc, 1, 0x4ab2),
  (0x2f9fd, 1, 0x29496), (0x2f9fe, 1, 0x980b), (0x2f9ff, 1, 0x980b), (0x2fa00, 1, 0x9829),
  (0x2fa01, 1, 0x295b6), (0x2fa02, 1, 0x98e2), (0x2fa03, 1, 0x4b33), (0x2fa04, 1, 0x9929),
  (0x2fa05, 1, 0x99a7), (0x2fa06, 1, 0x99c2), (0x2fa07, 1, 0x99fe), (0x2fa08, 1, 0x4bce),
  (0x2fa09, 1, 0x29b30), (0x2fa0a, 1, 0x9b12), (0x2fa0b, 1, 0x9c40), (0x2fa0c, 1, 0x9cfd),
  (0x2fa0d, 1, 0x4cce), (0x2fa0e, 1, 0x4ced), (0x2fa0f, 1, 0x9d67), (0x2fa10, 1, 0x2a0ce),
  (0x2fa11, 1, 0x4cf8), (0x2fa12, 1, 0x2a105), (0x2fa13, 1, 0x2a20e), (0x2fa14, 1, 0x2a291),
  (0x2fa15, 1, 0x9ebb), (0x2fa16, 1, 0x4d56), (0x2fa17, 1, 0x9ef9), (0x2fa18, 1, 0x9efe),
  (0x2fa19, 1, 0x9f05), (0x2fa1a, 1, 0x9f0f), (0x2fa1b, 1, 0x9f16), (0x2fa1c, 1, 0x9f3b),
  (0x2fa1d, 1, 0x2a600)]

/-- Runs of code points that stand for one other each. -/
def replacedRuns : List (List (Nat × Nat × Nat)) :=
  [replacedLetters, replacedIdeographs, replacedForms, replacedStyles, replacedFurtherIdeographs]

/-- Code points that stand for several others. -/
def replacedBySeveral : List (Nat × List Nat) := [
  (0x132, [0x49, 0x4a]), (0x133, [0x69, 0x6a]), (0x13f, [0x4c, 0xb7]), (0x140, [0x6c, 0xb7]),
  (0x149, [0x2bc, 0x6e]), (0x1c4, [0x44, 0x5a, 0x30c]), (0x1c5, [0x44, 0x7a, 0x30c]),
  (0x1c6, [0x64, 0x7a, 0x30c]), (0x1c7, [0x4c, 0x4a]), (0x1c8, [0x4c, 0x6a]),
  (0x1c9, [0x6c, 0x6a]), (0x1ca, [0x4e, 0x4a]), (0x1cb, [0x4e, 0x6a]), (0x1cc, [0x6e, 0x6a]),
  (0x1f1, [0x44, 0x5a]), (0x1f2, [0x44, 0x7a]), (0x1f3, [0x64, 0x7a]), (0x344, [0x308, 0x301]),
  (0x587, [0x565, 0x582]), (0x675, [0x627, 0x674]), (0x676, [0x648, 0x674]),
  (0x677, [0x6c7, 0x674]), (0x678, [0x64a, 0x674]), (0x958, [0x915, 0x93c]),
  (0x959, [0x916, 0x93c]), (0x95a, [0x917, 0x93c]), (0x95b, [0x91c, 0x93c]),
  (0x95c, [0x921, 0x93c]), (0x95d, [0x922, 0x93c]), (0x95e, [0x92b, 0x93c]),
  (0x95f, [0x92f, 0x93c]), (0x9dc, [0x9a1, 0x9bc]), (0x9dd, [0x9a2, 0x9bc]),
  (0x9df, [0x9af, 0x9bc]), (0xa33, [0xa32, 0xa3c]), (0xa36, [0xa38, 0xa3c]),
  (0xa59, [0xa16, 0xa3c]), (0xa5a, [0xa17, 0xa3c]), (0xa5b, [0xa1c, 0xa3c]),
  (0xa5e, [0xa2b, 0xa3c]), (0xb5c, [0xb21, 0xb3c]), (0xb5d, [0xb22, 0xb3c]),
  (0xe33, [0xe4d, 0xe32]), (0xeb3, [0xecd, 0xeb2]), (0xedc, [0xeab, 0xe99]),
  (0xedd, [0xeab, 0xea1]), (0xf43, [0xf42, 0xfb7]), (0xf4d, [0xf4c, 0xfb7]),
  (0xf52, [0xf51, 0xfb7]), (0xf57, [0xf56, 0xfb7]), (0xf5c, [0xf5b, 0xfb7]),
  (0xf69, [0xf40, 0xfb5]), (0xf73, [0xf71, 0xf72]), (0xf75, [0xf71, 0xf74]),
  (0xf76, [0xfb2, 0xf80]), (0xf77, [0xfb2, 0xf71, 0xf80]), (0xf78, [0xfb3, 0xf80]),
  (0xf79, [0xfb3, 0xf71, 0xf80]), (0xf81, [0xf71, 0xf80]), (0xf93, [0xf92, 0xfb7]),
  (0xf9d, [0xf9c, 0xfb7]), (0xfa2, [0xfa1, 0xfb7]), (0xfa7, [0xfa6, 0xfb7]),
  (0xfac, [0xfab, 0xfb7]), (0xfb9, [0xf90, 0xfb5]), (0x1e9a, [0x61, 0x2be]),
  (0x1f71, [0x3b1, 0x301]), (0x1f73, [0x3b5, 0x301]), (0x1f75, [0x3b7, 0x301]),
  (0x1f77, [0x3b9, 0x301]), (0x1f79, [0x3bf, 0x301]), (0x1f7b, [0x3c5, 0x301]),
  (0x1f7d, [0x3c9, 0x301]), (0x1fbb, [0x391, 0x301]), (0x1fc9, [0x395, 0x301]),
  (0x1fcb, [0x397, 0x301]), (0x1fd3, [0x3b9, 0x308, 0x301]), (0x1fdb, [0x399, 0x301]),
  (0x1fe3, [0x3c5, 0x308, 0x301]), (0x1feb, [0x3a5, 0x301]), (0x1ff9, [0x39f, 0x301]),
  (0x1ffb, [0x3a9, 0x301]), (0x212b, [0x41, 0x30a]), (0x2161, [0x49, 0x49]),
  (0x2162, [0x49, 0x49, 0x49]), (0x2163, [0x49, 0x56]), (0x2165, [0x56, 0x49]),
  (0x2166, [0x56, 0x49, 0x49]), (0x2167, [0x56, 0x49, 0x49, 0x49]), (0x2168, [0x49, 0x58]),
  (0x216a, [0x58, 0x49]), (0x216b, [0x58, 0x49, 0x49]), (0x2171, [0x69, 0x69]),
  (0x2172, [0x69, 0x69, 0x69]), (0x2173, [0x69, 0x76]), (0x2175, [0x76, 0x69]),
  (0x2176, [0x76, 0x69, 0x69]), (0x2177, [0x76, 0x69, 0x69, 0x69]), (0x2178, [0x69, 0x78]),
  (0x217a, [0x78, 0x69]), (0x217b, [0x78, 0x69, 0x69]), (0x309f, [0x3088, 0x308a]),
  (0x30ff, [0x30b3, 0x30c8]), (0xfb00, [0x66, 0x66]), (0xfb01, [0x66, 0x69]),
  (0xfb02, [0x66, 0x6c]), (0xfb03, [0x66, 0x66, 0x69]), (0xfb04, [0x66, 0x66, 0x6c]),
  (0xfb05, [0x73, 0x74]), (0xfb06, [0x73, 0x74]), (0xfb13, [0x574, 0x576]),
  (0xfb14, [0x574, 0x565]), (0xfb15, [0x574, 0x56b]), (0xfb16, [0x57e, 0x576]),
  (0xfb17, [0x574, 0x56d]), (0xfb1d, [0x5d9, 0x5b4]), (0xfb1f, [0x5f2, 0x5b7]),
  (0xfb2a, [0x5e9, 0x5c1]), (0xfb2b, [0x5e9, 0x5c2]), (0xfb2c, [0x5e9, 0x5bc, 0x5c1]),
  (0xfb2d, [0x5e9, 0x5bc, 0x5c2]), (0xfb2e, [0x5d0, 0x5b7]), (0xfb2f, [0x5d0, 0x5b8]),
  (0xfb30, [0x5d0, 0x5bc]), (0xfb31, [0x5d1, 0x5bc]), (0xfb32, [0x5d2, 0x5bc]),
  (0xfb33, [0x5d3, 0x5bc]), (0xfb34, [0x5d4, 0x5bc]), (0xfb35, [0x5d5, 0x5bc]),
  (0xfb36, [0x5d6, 0x5bc]), (0xfb38, [0x5d8, 0x5bc]), (0xfb39, [0x5d9, 0x5bc]),
  (0xfb3a, [0x5da, 0x5bc]), (0xfb3b, [0x5db, 0x5bc]), (0xfb3c, [0x5dc, 0x5bc]),
  (0xfb3e, [0x5de, 0x5bc]), (0xfb40, [0x5e0, 0x5bc]), (0xfb41, [0x5e1, 0x5bc]),
  (0xfb43, [0x5e3, 0x5bc]), (0xfb44, [0x5e4, 0x5bc]), (0xfb46, [0x5e6, 0x5bc]),
  (0xfb47, [0x5e7, 0x5bc]), (0xfb48, [0x5e8, 0x5bc]), (0xfb49, [0x5e9, 0x5bc]),
  (0xfb4a, [0x5ea, 0x5bc]), (0xfb4b, [0x5d5, 0x5b9]), (0xfb4c, [0x5d1, 0x5bf]),
  (0xfb4d, [0x5db, 0x5bf]), (0xfb4e, [0x5e4, 0x5bf]), (0xfb4f, [0x5d0, 0x5dc]),
  (0xfba4, [0x6d5, 0x654]), (0xfba5, [0x6d5, 0x654]), (0xfbb0, [0x6d2, 0x654]),
  (0xfbb1, [0x6d2, 0x654]), (0xfbdd, [0x6c7, 0x674]), (0xfbea, [0x64a, 0x654, 0x627]),
  (0xfbeb, [0x64a, 0x654, 0x627]), (0xfbec, [0x64a, 0x654, 0x6d5]),
  (0xfbed, [0x64a, 0x654, 0x6d5]), (0xfbee, [0x64a, 0x654, 0x648]),
  (0xfbef, [0x64a, 0x654, 0x648]), (0xfbf0, [0x64a, 0x654, 0x6c7]),
  (0xfbf1, [0x64a, 0x654, 0x6c7]), (0xfbf2, [0x64a, 0x654, 0x6c6]),
  (0xfbf3, [0x64a, 0x654, 0x6c6]), (0xfbf4, [0x64a, 0x654, 0x6c8]),
  (0xfbf5, [0x64a, 0x654, 0x6c8]), (0xfbf6, [0x64a, 0x654, 0x6d0]),
  (0xfbf7, [0x64a, 0x654, 0x6d0]), (0xfbf8, [0x64a, 0x654, 0x6d0]),
  (0xfbf9, [0x64a, 0x654, 0x649]), (0xfbfa, [0x64a, 0x654, 0x649]),
  (0xfbfb, [0x64a, 0x654, 0x649]), (0xfc00, [0x64a, 0x654, 0x62c]),
  (0xfc01, [0x64a, 0x654, 0x62d]), (0xfc02, [0x64a, 0x654, 0x645]),
  (0xfc03, [0x64a, 0x654, 0x649]), (0xfc04, [0x64a, 0x654, 0x64a]), (0xfc05, [0x628, 0x62c]),
  (0xfc06, [0x628, 0x62d]), (0xfc07, [0x628, 0x62e]), (0xfc08, [0x628, 0x645]),
  (0xfc09, [0x628, 0x649]), (0xfc0a, [0x628, 0x64a]), (0xfc0b, [0x62a, 0x62c]),
  (0xfc0c, [0x62a, 0x62d]), (0xfc0d, [0x62a, 0x62e]), (0xfc0e, [0x62a, 0x645]),
  (0xfc0f, [0x62a, 0x649]), (0xfc10, [0x62a, 0x64a]), (0xfc11, [0x62b, 0x62c]),
  (0xfc12, [0x62b, 0x645]), (0xfc13, [0x62b, 0x649]), (0xfc14, [0x62b, 0x64a]),
  (0xfc15, [0x62c, 0x62d]), (0xfc16, [0x62c, 0x645]), (0xfc17, [0x62d, 0x62c]),
  (0xfc18, [0x62d, 0x645]), (0xfc19, [0x62e, 0x62c]), (0xfc1a, [0x62e, 0x62d]),
  (0xfc1b, [0x62e, 0x645]), (0xfc1c, [0x633, 0x62c]), (0xfc1d, [0x633, 0x62d]),
  (0xfc1e, [0x633, 0x62e]), (0xfc1f, [0x633, 0x645]), (0xfc20, [0x635, 0x62d]),
  (0xfc21, [0x635, 0x645]), (0xfc22, [0x636, 0x62c]), (0xfc23, [0x636, 0x62d]),
  (0xfc24, [0x636, 0x62e]), (0xfc25, [0x636, 0x645]), (0xfc26, [0x637, 0x62d]),
  (0xfc27, [0x637, 0x645]), (0xfc28, [0x638, 0x645]), (0xfc29, [0x639, 0x62c]),
  (0xfc2a, [0x639, 0x645]), (0xfc2b, [0x63a, 0x62c]), (0xfc2c, [0x63a, 0x645]),
  (0xfc2d, [0x641, 0x62c]), (0xfc2e, [0x641, 0x62d]), (0xfc2f, [0x641, 0x62e]),
  (0xfc30, [0x641, 0x645]), (0xfc31, [0x641, 0x649]), (0xfc32, [0x641, 0x64a]),
  (0xfc33, [0x642, 0x62d]), (0xfc34, [0x642, 0x645]), (0xfc35, [0x642, 0x649]),
  (0xfc36, [0x642, 0x64a]), (0xfc37, [0x643, 0x627]), (0xfc38, [0x643, 0x62c]),
  (0xfc39, [0x643, 0x62d]), (0xfc3a, [0x643, 0x62e]), (0xfc3b, [0x643, 0x644]),
  (0xfc3c, [0x643, 0x645]), (0xfc3d, [0x643, 0x649]), (0xfc3e, [0x643, 0x64a]),
  (0xfc3f, [0x644, 0x62c]), (0xfc40, [0x644, 0x62d]), (0xfc41, [0x644, 0x62e]),
  (0xfc42, [0x644, 0x645]), (0xfc43, [0x644, 0x649]), (0xfc44, [0x644, 0x64a]),
  (0xfc45, [0x645, 0x62c]), (0xfc46, [0x645, 0x62d]), (0xfc47, [0x645, 0x62e]),
  (0xfc48, [0x645, 0x645]), (0xfc49, [0x645, 0x649]), (0xfc4a, [0x645, 0x64a]),
  (0xfc4b, [0x646, 0x62c]), (0xfc4c, [0x646, 0x62d]), (0xfc4d, [0x646, 0x62e]),
  (0xfc4e, [0x646, 0x645]), (0xfc4f, [0x646, 0x649]), (0xfc50, [0x646, 0x64a]),
  (0xfc51, [0x647, 0x62c]), (0xfc52, [0x647, 0x645]), (0xfc53, [0x647, 0x649]),
  (0xfc54, [0x647, 0x64a]), (0xfc55, [0x64a, 0x62c]), (0xfc56, [0x64a, 0x62d]),
  (0xfc57, [0x64a, 0x62e]), (0xfc58, [0x64a, 0x645]), (0xfc59, [0x64a, 0x649]),
  (0xfc5a, [0x64a, 0x64a]), (0xfc5b, [0x630, 0x670]), (0xfc5c, [0x631, 0x670]),
  (0xfc5d, [0x649, 0x670]), (0xfc64, [0x64a, 0x654, 0x631]), (0xfc65, [0x64a, 0x654, 0x632]),
  (0xfc66, [0x64a, 0x654, 0x645]), (0xfc67, [0x64a, 0x654, 0x646]),
  (0xfc68, [0x64a, 0x654, 0x649]), (0xfc69, [0x64a, 0x654, 0x64a]), (0xfc6a, [0x628, 0x631]),
  (0xfc6b, [0x628, 0x632]), (0xfc6c, [0x628, 0x645]), (0xfc6d, [0x628, 0x646]),
  (0xfc6e, [0x628, 0x649]), (0xfc6f, [0x628, 0x64a]), (0xfc70, [0x62a, 0x631]),
  (0xfc71, [0x62a, 0x632]), (0xfc72, [0x62a, 0x645]), (0xfc73, [0x62a, 0x646]),
  (0xfc74, [0x62a, 0x649]), (0xfc75, [0x62a, 0x64a]), (0xfc76, [0x62b, 0x631]),
  (0xfc77, [0x62b, 0x632]), (0xfc78, [0x62b, 0x645]), (0xfc79, [0x62b, 0x646]),
  (0xfc7a, [0x62b, 0x649]), (0xfc7b, [0x62b, 0x64a]), (0xfc7c, [0x641, 0x649]),
  (0xfc7d, [0x641, 0x64a]), (0xfc7e, [0x642, 0x649]), (0xfc7f, [0x642, 0x64a]),
  (0xfc80, [0x643, 0x627]), (0xfc81, [0x643, 0x644]), (0xfc82, [0x643, 0x645]),
  (0xfc83, [0x643, 0x649]), (0xfc84, [0x643, 0x64a]), (0xfc85, [0x644, 0x645]),
  (0xfc86, [0x644, 0x649]), (0xfc87, [0x644, 0x64a]), (0xfc88, [0x645, 0x627]),
  (0xfc89, [0x645, 0x645]), (0xfc8a, [0x646, 0x631]), (0xfc8b, [0x646, 0x632]),
  (0xfc8c, [0x646, 0x645]), (0xfc8d, [0x646, 0x646]), (0xfc8e, [0x646, 0x649]),
  (0xfc8f, [0x646, 0x64a]), (0xfc90, [0x649, 0x670]), (0xfc91, [0x64a, 0x631]),
  (0xfc92, [0x64a, 0x632]), (0xfc93, [0x64a, 0x645]), (0xfc94, [0x64a, 0x646]),
  (0xfc95, [0x64a, 0x649]), (0xfc96, [0x64a, 0x64a]), (0xfc97, [0x64a, 0x654, 0x62c]),
  (0xfc98, [0x64a, 0x654, 0x62d]), (0xfc99, [0x64a, 0x654, 0x62e]),
  (0xfc9a, [0x64a, 0x654, 0x645]), (0xfc9b, [0x64a, 0x654, 0x647]), (0xfc9c, [0x628, 0x62c]),
  (0xfc9d, [0x628, 0x62d]), (0xfc9e, [0x628, 0x62e]), (0xfc9f, [0x628, 0x645]),
  (0xfca0, [0x628, 0x647]), (0xfca1, [0x62a, 0x62c]), (0xfca2, [0x62a, 0x62d]),
  (0xfca3, [0x62a, 0x62e]), (0xfca4, [0x62a, 0x645]), (0xfca5, [0x62a, 0x647]),
  (0xfca6, [0x62b, 0x645]), (0xfca7, [0x62c, 0x62d]), (0xfca8, [0x62c, 0x645]),
  (0xfca9, [0x62d, 0x62c]), (0xfcaa, [0x62d, 0x645]), (0xfcab, [0x62e, 0x62c]),
  (0xfcac, [0x62e, 0x645]), (0xfcad, [0x633, 0x62c]), (0xfcae, [0x633, 0x62d]),
  (0xfcaf, [0x633, 0x62e]), (0xfcb0, [0x633, 0x645]), (0xfcb1, [0x635, 0x62d]),
  (0xfcb2, [0x635, 0x62e]), (0xfcb3, [0x635, 0x645]), (0xfcb4, [0x636, 0x62c]),
  (0xfcb5, [0x636, 0x62d]), (0xfcb6, [0x636, 0x62e]), (0xfcb7, [0x636, 0x645]),
  (0xfcb8, [0x637, 0x62d]), (0xfcb9, [0x638, 0x645]), (0xfcba, [0x639, 0x62c]),
  (0xfcbb, [0x639, 0x645]), (0xfcbc, [0x63a, 0x62c]), (0xfcbd, [0x63a, 0x645]),
  (0xfcbe, [0x641, 0x62c]), (0xfcbf, [0x641, 0x62d]), (0xfcc0, [0x641, 0x62e]),
  (0xfcc1, [0x641, 0x645]), (0xfcc2, [0x642, 0x62d]), (0xfcc3, [0x642, 0x645]),
  (0xfcc4, [0x643, 0x62c]), (0xfcc5, [0x643, 0x62d]), (0xfcc6, [0x643, 0x62e]),
  (0xfcc7, [0x643, 0x644]), (0xfcc8, [0x643, 0x645]), (0xfcc9, [0x644, 0x62c]),
  (0xfcca, [0x644, 0x62d]), (0xfccb, [0x644, 0x62e]), (0xfccc, [0x644, 0x645]),
  (0xfccd, [0x644, 0x647]), (0xfcce, [0x645, 0x62c]), (0xfccf, [0x645, 0x62d]),
  (0xfcd0, [0x645, 0x62e]), (0xfcd1, [0x645, 0x645]), (0xfcd2, [0x646, 0x62c]),
  (0xfcd3, [0x646, 0x62d]), (0xfcd4, [0x646, 0x62e]), (0xfcd5, [0x646, 0x645]),
  (0xfcd6, [0x646, 0x647]), (0xfcd7, [0x647, 0x62c]), (0xfcd8, [0x647, 0x645]),
  (0xfcd9, [0x647, 0x670]), (0xfcda, [0x64a, 0x62c]), (0xfcdb, [0x64a, 0x62d]),
  (0xfcdc, [0x64a, 0x62e]), (0xfcdd, [0x64a, 0x645]), (0xfcde, [0x64a, 0x647]),
  (0xfcdf, [0x64a, 0x654, 0x645]), (0xfce0, [0x64a, 0x654, 0x647]), (0xfce1, [0x628, 0x645]),
  (0xfce2, [0x628, 0x647]), (0xfce3, [0x62a, 0x645]), (0xfce4, [0x62a, 0x647]),
  (0xfce5, [0x62b, 0x645]), (0xfce6, [0x62b, 0x647]), (0xfce7, [0x633, 0x645]),
  (0xfce8, [0x633, 0x647]), (0xfce9, [0x634, 0x645]), (0xfcea, [0x634, 0x647]),
  (0xfceb, [0x643, 0x644]), (0xfcec, [0x643, 0x645]), (0xfced, [0x644, 0x645]),
  (0xfcee, [0x646, 0x645]), (0xfcef, [0x646, 0x647]), (0xfcf0, [0x64a, 0x645]),
  (0xfcf1, [0x64a, 0x647]), (0xfcf2, [0x640, 0x64e, 0x651]), (0xfcf3, [0x640, 0x64f, 0x651]),
  (0xfcf4, [0x640, 0x650, 0x651]), (0xfcf5, [0x637, 0x649]), (0xfcf6, [0x637, 0x64a]),
  (0xfcf7, [0x639, 0x649]), (0xfcf8, [0x639, 0x64a]), (0xfcf9, [0x63a, 0x649]),
  (0xfcfa, [0x63a, 0x64a]), (0xfcfb, [0x633, 0x649]), (0xfcfc, [0x633, 0x64a]),
  (0xfcfd, [0x634, 0x649]), (0xfcfe, [0x634, 0x64a]), (0xfcff, [0x62d, 0x649]),
  (0xfd00, [0x62d, 0x64a]), (0xfd01, [0x62c, 0x649]), (0xfd02, [0x62c, 0x64a]),
  (0xfd03, [0x62e, 0x649]), (0xfd04, [0x62e, 0x64a]), (0xfd05, [0x635, 0x649]),
  (0xfd06, [0x635, 0x64a]), (0xfd07, [0x636, 0x649]), (0xfd08, [0x636, 0x64a]),
  (0xfd09, [0x634, 0x62c]), (0xfd0a, [0x634, 0x62d]), (0xfd0b, [0x634, 0x62e]),
  (0xfd0c, [0x634, 0x645]), (0xfd0d, [0x634, 0x631]), (0xfd0e, [0x633, 0x631]),
  (0xfd0f, [0x635, 0x631]), (0xfd10, [0x636, 0x631]), (0xfd11, [0x637, 0x649]),
  (0xfd12, [0x637, 0x64a]), (0xfd13, [0x639, 0x649]), (0xfd14, [0x639, 0x64a]),
  (0xfd15, [0x63a, 0x649]), (0xfd16, [0x63a, 0x64a]), (0xfd17, [0x633, 0x649]),
  (0xfd18, [0x633, 0x64a]), (0xfd19, [0x634, 0x649]), (0xfd1a, [0x634, 0x64a]),
  (0xfd1b, [0x62d, 0x649]), (0xfd1c, [0x62d, 0x64a]), (0xfd1d, [0x62c, 0x649]),
  (0xfd1e, [0x62c, 0x64a]), (0xfd1f, [0x62e, 0x649]), (0xfd20, [0x62e, 0x64a]),
  (0xfd21, [0x635, 0x649]), (0xfd22, [0x635, 0x64a]), (0xfd23, [0x636, 0x649]),
  (0xfd24, [0x636, 0x64a]), (0xfd25, [0x634, 0x62c]), (0xfd26, [0x634, 0x62d]),
  (0xfd27, [0x634, 0x62e]), (0xfd28, [0x634, 0x645]), (0xfd29, [0x634, 0x631]),
  (0xfd2a, [0x633, 0x631]), (0xfd2b, [0x635, 0x631]), (0xfd2c, [0x636, 0x631]),
  (0xfd2d, [0x634, 0x62c]), (0xfd2e, [0x634, 0x62d]), (0xfd2f, [0x634, 0x62e]),
  (0xfd30, [0x634, 0x645]), (0xfd31, [0x633, 0x647]), (0xfd32, [0x634, 0x647]),
  (0xfd33, [0x637, 0x645]), (0xfd34, [0x633, 0x62c]), (0xfd35, [0x633, 0x62d]),
  (0xfd36, [0x633, 0x62e]), (0xfd37, [0x634, 0x62c]), (0xfd38, [0x634, 0x62d]),
  (0xfd39, [0x634, 0x62e]), (0xfd3a, [0x637, 0x645]), (0xfd3b, [0x638, 0x645]),
  (0xfd3c, [0x627, 0x64b]), (0xfd3d, [0x627, 0x64b]), (0xfd50, [0x62a, 0x62c, 0x645]),
  (0xfd51, [0x62a, 0x62d, 0x62c]), (0xfd52, [0x62a, 0x62d, 0x62c]),
  (0xfd53, [0x62a, 0x62d, 0x645]), (0xfd54, [0x62a, 0x62e, 0x645]),
  (0xfd55, [0x62a, 0x645, 0x62c]), (0xfd56, [0x62a, 0x645, 0x62d]),
  (0xfd57, [0x62a, 0x645, 0x62e]), (0xfd58, [0x62c, 0x645, 0x62d]),
  (0xfd59, [0x62c, 0x645, 0x62d]), (0xfd5a, [0x62d, 0x645, 0x64a]),
  (0xfd5b, [0x62d, 0x645, 0x649]), (0xfd5c, [0x633, 0x62d, 0x62c]),
  (0xfd5d, [0x633, 0x62c, 0x62d]), (0xfd5e, [0x633, 0x62c, 0x649]),
  (0xfd5f, [0x633, 0x645, 0x62d]), (0xfd60, [0x633, 0x645, 0x62d]),
  (0xfd61, [0x633, 0x645, 0x62c]), (0xfd62, [0x633, 0x645, 0x645]),
  (0xfd63, [0x633, 0x645, 0x645]), (0xfd64, [0x635, 0x62d, 0x62d]),
  (0xfd65, [0x635, 0x62d, 0x62d]), (0xfd66, [0x635, 0x645, 0x645]),
  (0xfd67, [0x634, 0x62d, 0x645]), (0xfd68, [0x634, 0x62d, 0x645]),
  (0xfd69, [0x634, 0x62c, 0x64a]), (0xfd6a, [0x634, 0x645, 0x62e]),
  (0xfd6b, [0x634, 0x645, 0x62e]), (0xfd6c, [0x634, 0x645, 0x645]),
  (0xfd6d, [0x634, 0x645, 0x645]), (0xfd6e, [0x636, 0x62d, 0x649]),
  (0xfd6f, [0x636, 0x62e, 0x645]), (0xfd70, [0x636, 0x62e, 0x645]),
  (0xfd71, [0x637, 0x645, 0x62d]), (0xfd72, [0x637, 0x645, 0x62d]),
  (0xfd73, [0x637, 0x645, 0x645]), (0xfd74, [0x637, 0x645, 0x64a]),
  (0xfd75, [0x639, 0x62c, 0x645]), (0xfd76, [0x639, 0x645, 0x645]),
  (0xfd77, [0x639, 0x645, 0x645]), (0xfd78, [0x639, 0x645, 0x649]),
  (0xfd79, [0x63a, 0x645, 0x645]), (0xfd7a, [0x63a, 0x645, 0x64a]),
  (0xfd7b, [0x63a, 0x645, 0x649]), (0xfd7c, [0x641, 0x62e, 0x645]),
  (0xfd7d, [0x641, 0x62e, 0x645]), (0xfd7e, [0x642, 0x645, 0x62d]),
  (0xfd7f, [0x642, 0x645, 0x645]), (0xfd80, [0x644, 0x62d, 0x645]),
  (0xfd81, [0x644, 0x62d, 0x64a]), (0xfd82, [0x644, 0x62d, 0x649]),
  (0xfd83, [0x644, 0x62c, 0x62c]), (0xfd84, [0x644, 0x62c, 0x62c]),
  (0xfd85, [0x644, 0x62e, 0x645]), (0xfd86, [0x644, 0x62e, 0x645]),
  (0xfd87, [0x644, 0x645, 0x62d]), (0xfd88, [0x644, 0x645, 0x62d]),
  (0xfd89, [0x645, 0x62d, 0x62c]), (0xfd8a, [0x645, 0x62d, 0x645]),
  (0xfd8b, [0x645, 0x62d, 0x64a]), (0xfd8c, [0x645, 0x62c, 0x62d]),
  (0xfd8d, [0x645, 0x62c, 0x645]), (0xfd8e, [0x645, 0x62e, 0x62c]),
  (0xfd8f, [0x645, 0x62e, 0x645]), (0xfd92, [0x645, 0x62c, 0x62e]),
  (0xfd93, [0x647, 0x645, 0x62c]), (0xfd94, [0x647, 0x645, 0x645]),
  (0xfd95, [0x646, 0x62d, 0x645]), (0xfd96, [0x646, 0x62d, 0x649]),
  (0xfd97, [0x646, 0x62c, 0x645]), (0xfd98, [0x646, 0x62c, 0x645]),
  (0xfd99, [0x646, 0x62c, 0x649]), (0xfd9a, [0x646, 0x645, 0x64a]),
  (0xfd9b, [0x646, 0x645, 0x649]), (0xfd9c, [0x64a, 0x645, 0x645]),
  (0xfd9d, [0x64a, 0x645, 0x645]), (0xfd9e, [0x628, 0x62e, 0x64a]),
  (0xfd9f, [0x62a, 0x62c, 0x64a]), (0xfda0, [0x62a, 0x62c, 0x649]),
  (0xfda1, [0x62a, 0x62e, 0x64a]), (0xfda2, [0x62a, 0x62e, 0x649]),
  (0xfda3, [0x62a, 0x645, 0x64a]), (0xfda4, [0x62a, 0x645, 0x649]),
  (0xfda5, [0x62c, 0x645, 0x64a]), (0xfda6, [0x62c, 0x62d, 0x649]),
  (0xfda7, [0x62c, 0x645, 0x649]), (0xfda8, [0x633, 0x62e, 0x649]),
  (0xfda9, [0x635, 0x62d, 0x64a]), (0xfdaa, [0x634, 0x62d, 0x64a]),
  (0xfdab, [0x636, 0x62d, 0x64a]), (0xfdac, [0x644, 0x62c, 0x64a]),
  (0xfdad, [0x644, 0x645, 0x64a]), (0xfdae, [0x64a, 0x62d, 0x64a]),
  (0xfdaf, [0x64a, 0x62c, 0x64a]), (0xfdb0, [0x64a, 0x645, 0x64a]),
  (0xfdb1, [0x645, 0x645, 0x64a]), (0xfdb2, [0x642, 0x645, 0x64a]),
  (0xfdb3, [0x646, 0x62d, 0x64a]), (0xfdb4, [0x642, 0x645, 0x62d]),
  (0xfdb5, [0x644, 0x62d, 0x645]), (0xfdb6, [0x639, 0x645, 0x64a]),
  (0xfdb7, [0x643, 0x645, 0x64a]), (0xfdb8, [0x646, 0x62c, 0x62d]),
  (0xfdb9, [0x645, 0x62e, 0x64a]), (0xfdba, [0x644, 0x62c, 0x645]),
  (0xfdbb, [0x643, 0x645, 0x645]), (0xfdbc, [0x644, 0x62c, 0x645]),
  (0xfdbd, [0x646, 0x62c, 0x62d]), (0xfdbe, [0x62c, 0x62d, 0x64a]),
  (0xfdbf, [0x62d, 0x62c, 0x64a]), (0xfdc0, [0x645, 0x62c, 0x64a]),
  (0xfdc1, [0x641, 0x645, 0x64a]), (0xfdc2, [0x628, 0x62d, 0x64a]),
  (0xfdc3, [0x643, 0x645, 0x645]), (0xfdc4, [0x639, 0x62c, 0x645]),
  (0xfdc5, [0x635, 0x645, 0x645]), (0xfdc6, [0x633, 0x62e, 0x64a]),
  (0xfdc7, [0x646, 0x62c, 0x64a]), (0xfdf0, [0x635, 0x644, 0x6d2]),
  (0xfdf1, [0x642, 0x644, 0x6d2]), (0xfdf2, [0x627, 0x644, 0x644, 0x647]),
  (0xfdf3, [0x627, 0x643, 0x628, 0x631]), (0xfdf4, [0x645, 0x62d, 0x645, 0x62f]),
  (0xfdf5, [0x635, 0x644, 0x639, 0x645]), (0xfdf6, [0x631, 0x633, 0x648, 0x644]),
  (0xfdf7, [0x639, 0x644, 0x64a, 0x647]), (0xfdf8, [0x648, 0x633, 0x644, 0x645]),
  (0xfdf9, [0x635, 0x644, 0x649]), (0xfe71, [0x640, 0x64b]), (0xfe77, [0x640, 0x64e]),
  (0xfe79, [0x640, 0x64f]), (0xfe7b, [0x640, 0x650]), (0xfe7d, [0x640, 0x651]),
  (0xfe7f, [0x640, 0x652]), (0xfe81, [0x627, 0x653]), (0xfe82, [0x627, 0x653]),
  (0xfe83, [0x627, 0x654]), (0xfe84, [0x627, 0x654]), (0xfe85, [0x648, 0x654]),
  (0xfe86, [0x648, 0x654]), (0xfe87, [0x627, 0x655]), (0xfe88, [0x627, 0x655]),
  (0xfe89, [0x64a, 0x654]), (0xfe8a, [0x64a, 0x654]), (0xfe8b, [0x64a, 0x654]),
  (0xfe8c, [0x64a, 0x654]), (0xfef5, [0x644, 0x627, 0x653]), (0xfef6, [0x644, 0x627, 0x653]),
  (0xfef7, [0x644, 0x627, 0x654]), (0xfef8, [0x644, 0x627, 0x654]),
  (0xfef9, [0x644, 0x627, 0x655]), (0xfefa, [0x644, 0x627, 0x655]), (0xfefb, [0x644, 0x627]),
  (0xfefc, [0x644, 0x627])]

/-- The code points that a code point stands for, if it stands for others. -/
def replacementOf? (code : Nat) : Option (List Nat) :=
  match replacedRuns.findSome? fun runs =>
      runs.find? fun run => run.1 ≤ code && code < run.1 + run.2.1 with
  | some run => some [run.2.2 + (code - run.1)]
  | none => replacedBySeveral.lookup code

end ServiceStubs.Text
