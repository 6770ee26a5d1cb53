/-!
# Compatibility mappings

What the characters of Unicode 14 that never occur in compatibility-composed text are replaced
with. Most are replaced with one character; neighbours often are replaced with neighbours, or all
with the same character. Hangul syllables and composites of two characters do not occur here.
-/

namespace ShaderVariants.Text.NormalForm

/-- A stretch of code points that are replaced in one way. -/
structure Mapping where
  first : Nat
  last : Nat
  target : Nat

/-- Stretches whose code points are replaced with consecutive ones, from the target on. -/
def shifts : List Mapping := [
    ⟨0xa0, 0xa0, 0x20⟩, ⟨0xaa, 0xaa, 0x61⟩, ⟨0xb2, 0xb3, 0x32⟩, ⟨0xb5, 0xb5, 0x3bc⟩,
    ⟨0xb9, 0xb9, 0x31⟩, ⟨0xba, 0xba, 0x6f⟩, ⟨0x17f, 0x17f, 0x73⟩, ⟨0x2b0, 0x2b0, 0x68⟩,
    ⟨0x2b1, 0x2b1, 0x266⟩, ⟨0x2b2, 0x2b2, 0x6a⟩, ⟨0x2b3, 0x2b3, 0x72⟩, ⟨0x2b4, 0x2b4, 0x279⟩,
    ⟨0x2b5, 0x2b5, 0x27b⟩, ⟨0x2b6, 0x2b6, 0x281⟩, ⟨0x2b7, 0x2b7, 0x77⟩, ⟨0x2b8, 0x2b8, 0x79⟩,
    ⟨0x2e0, 0x2e0, 0x263⟩, ⟨0x2e1, 0x2e1, 0x6c⟩, ⟨0x2e2, 0x2e2, 0x73⟩, ⟨0x2e3, 0x2e3, 0x78⟩,
    ⟨0x2e4, 0x2e4, 0x295⟩, ⟨0x340, 0x341, 0x300⟩, ⟨0x343, 0x343, 0x313⟩, ⟨0x374, 0x374, 0x2b9⟩,
    ⟨0x37e, 0x37e, 0x3b⟩, ⟨0x387, 0x387, 0xb7⟩, ⟨0x3d0, 0x3d0, 0x3b2⟩, ⟨0x3d1, 0x3d1, 0x3b8⟩,
    ⟨0x3d2, 0x3d2, 0x3a5⟩, ⟨0x3d3, 0x3d3, 0x38e⟩, ⟨0x3d4, 0x3d4, 0x3ab⟩, ⟨0x3d5, 0x3d5, 0x3c6⟩,
    ⟨0x3d6, 0x3d6, 0x3c0⟩, ⟨0x3f0, 0x3f0, 0x3ba⟩, ⟨0x3f1, 0x3f2, 0x3c1⟩, ⟨0x3f4, 0x3f4, 0x398⟩,
    ⟨0x3f5, 0x3f5, 0x3b5⟩, ⟨0x3f9, 0x3f9, 0x3a3⟩, ⟨0xf0c, 0xf0c, 0xf0b⟩, ⟨0x10fc, 0x10fc, 0x10dc⟩,
    ⟨0x1d2c, 0x1d2c, 0x41⟩, ⟨0x1d2d, 0x1d2d, 0xc6⟩, ⟨0x1d2e, 0x1d2e, 0x42⟩, ⟨0x1d30, 0x1d31, 0x44⟩,
    ⟨0x1d32, 0x1d32, 0x18e⟩, ⟨0x1d33, 0x1d3a, 0x47⟩, ⟨0x1d3c, 0x1d3c, 0x4f⟩,
    ⟨0x1d3d, 0x1d3d, 0x222⟩, ⟨0x1d3e, 0x1d3e, 0x50⟩, ⟨0x1d3f, 0x1d3f, 0x52⟩,
    ⟨0x1d40, 0x1d41, 0x54⟩, ⟨0x1d42, 0x1d42, 0x57⟩, ⟨0x1d43, 0x1d43, 0x61⟩,
    ⟨0x1d44, 0x1d45, 0x250⟩, ⟨0x1d46, 0x1d46, 0x1d02⟩, ⟨0x1d47, 0x1d47, 0x62⟩,
    ⟨0x1d48, 0x1d49, 0x64⟩, ⟨0x1d4a, 0x1d4a, 0x259⟩, ⟨0x1d4b, 0x1d4c, 0x25b⟩,
    ⟨0x1d4d, 0x1d4d, 0x67⟩, ⟨0x1d4f, 0x1d4f, 0x6b⟩, ⟨0x1d50, 0x1d50, 0x6d⟩,
    ⟨0x1d51, 0x1d51, 0x14b⟩, ⟨0x1d52, 0x1d52, 0x6f⟩, ⟨0x1d53, 0x1d53, 0x254⟩,
    ⟨0x1d54, 0x1d55, 0x1d16⟩, ⟨0x1d56, 0x1d56, 0x70⟩, ⟨0x1d57, 0x1d58, 0x74⟩,
    ⟨0x1d59, 0x1d59, 0x1d1d⟩, ⟨0x1d5a, 0x1d5a, 0x26f⟩, ⟨0x1d5b, 0x1d5b, 0x76⟩,
    ⟨0x1d5c, 0x1d5c, 0x1d25⟩, ⟨0x1d5d, 0x1d5f, 0x3b2⟩, ⟨0x1d60, 0x1d61, 0x3c6⟩,
    ⟨0x1d62, 0x1d62, 0x69⟩, ⟨0x1d63, 0x1d63, 0x72⟩, ⟨0x1d64, 0x1d65, 0x75⟩,
    ⟨0x1d66, 0x1d67, 0x3b2⟩, ⟨0x1d68, 0x1d68, 0x3c1⟩, ⟨0x1d69, 0x1d6a, 0x3c6⟩,
    ⟨0x1d78, 0x1d78, 0x43d⟩, ⟨0x1d9b, 0x1d9b, 0x252⟩, ⟨0x1d9c, 0x1d9c, 0x63⟩,
    ⟨0x1d9d, 0x1d9d, 0x255⟩, ⟨0x1d9e, 0x1d9e, 0xf0⟩, ⟨0x1d9f, 0x1d9f, 0x25c⟩,
    ⟨0x1da0, 0x1da0, 0x66⟩, ⟨0x1da1, 0x1da1, 0x25f⟩, ⟨0x1da2, 0x1da2, 0x261⟩,
    ⟨0x1da3, 0x1da3, 0x265⟩, ⟨0x1da4, 0x1da6, 0x268⟩, ⟨0x1da7, 0x1da7, 0x1d7b⟩,
    ⟨0x1da8, 0x1da8, 0x29d⟩, ⟨0x1da9, 0x1da9, 0x26d⟩, ⟨0x1daa, 0x1daa, 0x1d85⟩,
    ⟨0x1dab, 0x1dab, 0x29f⟩, ⟨0x1dac, 0x1dac, 0x271⟩, ⟨0x1dad, 0x1dad, 0x270⟩,
    ⟨0x1dae, 0x1db1, 0x272⟩, ⟨0x1db2, 0x1db2, 0x278⟩, ⟨0x1db3, 0x1db4, 0x282⟩,
    ⟨0x1db5, 0x1db5, 0x1ab⟩, ⟨0x1db6, 0x1db7, 0x289⟩, ⟨0x1db8, 0x1db8, 0x1d1c⟩,
    ⟨0x1db9, 0x1dba, 0x28b⟩, ⟨0x1dbb, 0x1dbb, 0x7a⟩, ⟨0x1dbc, 0x1dbe, 0x290⟩,
    ⟨0x1dbf, 0x1dbf, 0x3b8⟩, ⟨0x1e9b, 0x1e9b, 0x1e61⟩, ⟨0x1f71, 0x1f71, 0x3ac⟩,
    ⟨0x1f73, 0x1f73, 0x3ad⟩, ⟨0x1f75, 0x1f75, 0x3ae⟩, ⟨0x1f77, 0x1f77, 0x3af⟩,
    ⟨0x1f79, 0x1f79, 0x3cc⟩, ⟨0x1f7b, 0x1f7b, 0x3cd⟩, ⟨0x1f7d, 0x1f7d, 0x3ce⟩,
    ⟨0x1fbb, 0x1fbb, 0x386⟩, ⟨0x1fbe, 0x1fbe, 0x3b9⟩, ⟨0x1fc9, 0x1fc9, 0x388⟩,
    ⟨0x1fcb, 0x1fcb, 0x389⟩, ⟨0x1fd3, 0x1fd3, 0x390⟩, ⟨0x1fdb, 0x1fdb, 0x38a⟩,
    ⟨0x1fe3, 0x1fe3, 0x3b0⟩, ⟨0x1feb, 0x1feb, 0x38e⟩, ⟨0x1fef, 0x1fef, 0x60⟩,
    ⟨0x1ff9, 0x1ff9, 0x38c⟩, ⟨0x1ffb, 0x1ffb, 0x38f⟩, ⟨0x2011, 0x2011, 0x2010⟩,
    ⟨0x2024, 0x2024, 0x2e⟩, ⟨0x202f, 0x202f, 0x20⟩, ⟨0x205f, 0x205f, 0x20⟩, ⟨0x2070, 0x2070, 0x30⟩,
    ⟨0x2071, 0x2071, 0x69⟩, ⟨0x2074, 0x2079, 0x34⟩, ⟨0x207a, 0x207a, 0x2b⟩,
    ⟨0x207b, 0x207b, 0x2212⟩, ⟨0x207c, 0x207c, 0x3d⟩, ⟨0x207d, 0x207e, 0x28⟩,
    ⟨0x207f, 0x207f, 0x6e⟩, ⟨0x2080, 0x2089, 0x30⟩, ⟨0x208a, 0x208a, 0x2b⟩,
    ⟨0x208b, 0x208b, 0x2212⟩, ⟨0x208c, 0x208c, 0x3d⟩, ⟨0x208d, 0x208e, 0x28⟩,
    ⟨0x2090, 0x2090, 0x61⟩, ⟨0x2091, 0x2091, 0x65⟩, ⟨0x2092, 0x2092, 0x6f⟩, ⟨0x2093, 0x2093, 0x78⟩,
    ⟨0x2094, 0x2094, 0x259⟩, ⟨0x2095, 0x2095, 0x68⟩, ⟨0x2096, 0x2099, 0x6b⟩,
    ⟨0x209a, 0x209a, 0x70⟩, ⟨0x209b, 0x209c, 0x73⟩, ⟨0x2102, 0x2102, 0x43⟩,
    ⟨0x2107, 0x2107, 0x190⟩, ⟨0x210a, 0x210a, 0x67⟩, ⟨0x210e, 0x210e, 0x68⟩,
    ⟨0x210f, 0x210f, 0x127⟩, ⟨0x2110, 0x2110, 0x49⟩, ⟨0x2111, 0x2111, 0x49⟩,
    ⟨0x2112, 0x2112, 0x4c⟩, ⟨0x2113, 0x2113, 0x6c⟩, ⟨0x2115, 0x2115, 0x4e⟩, ⟨0x2119, 0x211b, 0x50⟩,
    ⟨0x211c, 0x211c, 0x52⟩, ⟨0x211d, 0x211d, 0x52⟩, ⟨0x2124, 0x2124, 0x5a⟩,
    ⟨0x2126, 0x2126, 0x3a9⟩, ⟨0x2128, 0x2128, 0x5a⟩, ⟨0x212a, 0x212a, 0x4b⟩,
    ⟨0x212b, 0x212b, 0xc5⟩, ⟨0x212c, 0x212d, 0x42⟩, ⟨0x212f, 0x212f, 0x65⟩, ⟨0x2130, 0x2131, 0x45⟩,
    ⟨0x2133, 0x2133, 0x4d⟩, ⟨0x2134, 0x2134, 0x6f⟩, ⟨0x2135, 0x2138, 0x5d0⟩,
    ⟨0x2139, 0x2139, 0x69⟩, ⟨0x213c, 0x213c, 0x3c0⟩, ⟨0x213d, 0x213d, 0x3b3⟩,
    ⟨0x213e, 0x213e, 0x393⟩, ⟨0x213f, 0x213f, 0x3a0⟩, ⟨0x2140, 0x2140, 0x2211⟩,
    ⟨0x2145, 0x2145, 0x44⟩, ⟨0x2146, 0x2147, 0x64⟩, ⟨0x2148, 0x2149, 0x69⟩, ⟨0x2160, 0x2160, 0x49⟩,
    ⟨0x2164, 0x2164, 0x56⟩, ⟨0x2169, 0x2169, 0x58⟩, ⟨0x216c, 0x216c, 0x4c⟩, ⟨0x216d, 0x216e, 0x43⟩,
    ⟨0x216f, 0x216f, 0x4d⟩, ⟨0x2170, 0x2170, 0x69⟩, ⟨0x2174, 0x2174, 0x76⟩, ⟨0x2179, 0x2179, 0x78⟩,
    ⟨0x217c, 0x217c, 0x6c⟩, ⟨0x217d, 0x217e, 0x63⟩, ⟨0x217f, 0x217f, 0x6d⟩,
    ⟨0x2329, 0x232a, 0x3008⟩, ⟨0x2460, 0x2468, 0x31⟩, ⟨0x24b6, 0x24cf, 0x41⟩,
    ⟨0x24d0, 0x24e9, 0x61⟩, ⟨0x24ea, 0x24ea, 0x30⟩, ⟨0x2c7c, 0x2c7c, 0x6a⟩, ⟨0x2c7d, 0x2c7d, 0x56⟩,
    ⟨0x2d6f, 0x2d6f, 0x2d61⟩, ⟨0x3000, 0x3000, 0x20⟩, ⟨0x3036, 0x3036, 0x3012⟩,
    ⟨0x3131, 0x3132, 0x1100⟩, ⟨0x3133, 0x3133, 0x11aa⟩, ⟨0x3134, 0x3134, 0x1102⟩,
    ⟨0x3135, 0x3136, 0x11ac⟩, ⟨0x3137, 0x3139, 0x1103⟩, ⟨0x313a, 0x313f, 0x11b0⟩,
    ⟨0x3140, 0x3140, 0x111a⟩, ⟨0x3141, 0x3143, 0x1106⟩, ⟨0x3144, 0x3144, 0x1121⟩,
    ⟨0x3145, 0x314e, 0x1109⟩, ⟨0x314f, 0x3163, 0x1161⟩, ⟨0x3164, 0x3164, 0x1160⟩,
    ⟨0x3165, 0x3166, 0x1114⟩, ⟨0x3167, 0x3168, 0x11c7⟩, ⟨0x3169, 0x3169, 0x11cc⟩,
    ⟨0x316a, 0x316a, 0x11ce⟩, ⟨0x316b, 0x316b, 0x11d3⟩, ⟨0x316c, 0x316c, 0x11d7⟩,
    ⟨0x316d, 0x316d, 0x11d9⟩, ⟨0x316e, 0x316e, 0x111c⟩, ⟨0x316f, 0x316f, 0x11dd⟩,
    ⟨0x3170, 0x3170, 0x11df⟩, ⟨0x3171, 0x3172, 0x111d⟩, ⟨0x3173, 0x3173, 0x1120⟩,
    ⟨0x3174, 0x3175, 0x1122⟩, ⟨0x3176, 0x3176, 0x1127⟩, ⟨0x3177, 0x3177, 0x1129⟩,
    ⟨0x3178, 0x317c, 0x112b⟩, ⟨0x317d, 0x317d, 0x1132⟩, ⟨0x317e, 0x317e, 0x1136⟩,
    ⟨0x317f, 0x317f, 0x1140⟩, ⟨0x3180, 0x3180, 0x1147⟩, ⟨0x3181, 0x3181, 0x114c⟩,
    ⟨0x3182, 0x3183, 0x11f1⟩, ⟨0x3184, 0x3186, 0x1157⟩, ⟨0x3187, 0x3188, 0x1184⟩,
    ⟨0x3189, 0x3189, 0x1188⟩, ⟨0x318a, 0x318b, 0x1191⟩, ⟨0x318c, 0x318c, 0x1194⟩,
    ⟨0x318d, 0x318d, 0x119e⟩, ⟨0x318e, 0x318e, 0x11a1⟩, ⟨0x3260, 0x3260, 0x1100⟩,
    ⟨0x3261, 0x3262, 0x1102⟩, ⟨0x3263, 0x3265, 0x1105⟩, ⟨0x3266, 0x3266, 0x1109⟩,
    ⟨0x3267, 0x3268, 0x110b⟩, ⟨0x3269, 0x326d, 0x110e⟩, ⟨0x326e, 0x326e, 0xac00⟩,
    ⟨0x326f, 0x326f, 0xb098⟩, ⟨0x3270, 0x3270, 0xb2e4⟩, ⟨0x3271, 0x3271, 0xb77c⟩,
    ⟨0x3272, 0x3272, 0xb9c8⟩, ⟨0x3273, 0x3273, 0xbc14⟩, ⟨0x3274, 0x3274, 0xc0ac⟩,
    ⟨0x3275, 0x3275, 0xc544⟩, ⟨0x3276, 0x3276, 0xc790⟩, ⟨0x3277, 0x3277, 0xcc28⟩,
    ⟨0x3278, 0x3278, 0xce74⟩, ⟨0x3279, 0x3279, 0xd0c0⟩, ⟨0x327a, 0x327a, 0xd30c⟩,
    ⟨0x327b, 0x327b, 0xd558⟩, ⟨0x327e, 0x327e, 0xc6b0⟩, ⟨0x32d0, 0x32d0, 0x30a2⟩,
    ⟨0x32d1, 0x32d1, 0x30a4⟩, ⟨0x32d2, 0x32d2, 0x30a6⟩, ⟨0x32d3, 0x32d3, 0x30a8⟩,
    ⟨0x32d4, 0x32d5, 0x30aa⟩, ⟨0x32d6, 0x32d6, 0x30ad⟩, ⟨0x32d7, 0x32d7, 0x30af⟩,
    ⟨0x32d8, 0x32d8, 0x30b1⟩, ⟨0x32d9, 0x32d9, 0x30b3⟩, ⟨0x32da, 0x32da, 0x30b5⟩,
    ⟨0x32db, 0x32db, 0x30b7⟩, ⟨0x32dc, 0x32dc, 0x30b9⟩, ⟨0x32dd, 0x32dd, 0x30bb⟩,
    ⟨0x32de, 0x32de, 0x30bd⟩, ⟨0x32df, 0x32df, 0x30bf⟩, ⟨0x32e0, 0x32e0, 0x30c1⟩,
    ⟨0x32e1, 0x32e1, 0x30c4⟩, ⟨0x32e2, 0x32e2, 0x30c6⟩, ⟨0x32e3, 0x32e3, 0x30c8⟩,
    ⟨0x32e4, 0x32e9, 0x30ca⟩, ⟨0x32ea, 0x32ea, 0x30d2⟩, ⟨0x32eb, 0x32eb, 0x30d5⟩,
    ⟨0x32ec, 0x32ec, 0x30d8⟩, ⟨0x32ed, 0x32ed, 0x30db⟩, ⟨0x32ee, 0x32f2, 0x30de⟩,
    ⟨0x32f3, 0x32f3, 0x30e4⟩, ⟨0x32f4, 0x32f4, 0x30e6⟩, ⟨0x32f5, 0x32fa, 0x30e8⟩,
    ⟨0x32fb, 0x32fe, 0x30ef⟩, ⟨0xa69c, 0xa69c, 0x44a⟩, ⟨0xa69d, 0xa69d, 0x44c⟩,
    ⟨0xa7f2, 0xa7f2, 0x43⟩, ⟨0xa7f3, 0xa7f3, 0x46⟩, ⟨0xa7f4, 0xa7f4, 0x51⟩,
    ⟨0xa7f8, 0xa7f8, 0x126⟩, ⟨0xa7f9, 0xa7f9, 0x153⟩, ⟨0xab5e, 0xab5e, 0x26b⟩,
    ⟨0xab69, 0xab69, 0x28d⟩, ⟨0xfb20, 0xfb20, 0x5e2⟩, ⟨0xfb21, 0xfb21, 0x5d0⟩,
    ⟨0xfb22, 0xfb23, 0x5d3⟩, ⟨0xfb24, 0xfb26, 0x5db⟩, ⟨0xfb27, 0xfb27, 0x5e8⟩,
    ⟨0xfb28, 0xfb28, 0x5ea⟩, ⟨0xfb29, 0xfb29, 0x2b⟩, ⟨0xfb50, 0xfb50, 0x671⟩,
    ⟨0xfb51, 0xfb51, 0x671⟩, ⟨0xfb82, 0xfb82, 0x68d⟩, ⟨0xfb83, 0xfb83, 0x68d⟩,
    ⟨0xfb84, 0xfb84, 0x68c⟩, ⟨0xfb85, 0xfb85, 0x68c⟩, ⟨0xfb86, 0xfb86, 0x68e⟩,
    ⟨0xfb87, 0xfb87, 0x68e⟩, ⟨0xfb88, 0xfb88, 0x688⟩, ⟨0xfb89, 0xfb89, 0x688⟩,
    ⟨0xfb8a, 0xfb8a, 0x698⟩, ⟨0xfb8b, 0xfb8b, 0x698⟩, ⟨0xfb8c, 0xfb8c, 0x691⟩,
    ⟨0xfb8d, 0xfb8d, 0x691⟩, ⟨0xfb9e, 0xfb9e, 0x6ba⟩, ⟨0xfb9f, 0xfba0, 0x6ba⟩,
    ⟨0xfba4, 0xfba4, 0x6c0⟩, ⟨0xfba5, 0xfba6, 0x6c0⟩, ⟨0xfbae, 0xfbae, 0x6d2⟩,
    ⟨0xfbaf, 0xfbb0, 0x6d2⟩, ⟨0xfbb1, 0xfbb1, 0x6d3⟩, ⟨0xfbd7, 0xfbd7, 0x6c7⟩,
    ⟨0xfbd8, 0xfbd8, 0x6c7⟩, ⟨0xfbd9, 0xfbd9, 0x6c6⟩, ⟨0xfbda, 0xfbda, 0x6c6⟩,
    ⟨0xfbdb, 0xfbdb, 0x6c8⟩, ⟨0xfbdc, 0xfbdc, 0x6c8⟩, ⟨0xfbde, 0xfbde, 0x6cb⟩,
    ⟨0xfbdf, 0xfbdf, 0x6cb⟩, ⟨0xfbe0, 0xfbe0, 0x6c5⟩, ⟨0xfbe1, 0xfbe1, 0x6c5⟩,
    ⟨0xfbe2, 0xfbe2, 0x6c9⟩, ⟨0xfbe3, 0xfbe3, 0x6c9⟩, ⟨0xfbe8, 0xfbe8, 0x649⟩,
    ⟨0xfbe9, 0xfbe9, 0x649⟩, ⟨0xfe10, 0xfe10, 0x2c⟩, ⟨0xfe11, 0xfe12, 0x3001⟩,
    ⟨0xfe13, 0xfe14, 0x3a⟩, ⟨0xfe15, 0xfe15, 0x21⟩, ⟨0xfe16, 0xfe16, 0x3f⟩,
    ⟨0xfe17, 0xfe18, 0x3016⟩, ⟨0xfe31, 0xfe31, 0x2014⟩, ⟨0xfe32, 0xfe32, 0x2013⟩,
    ⟨0xfe33, 0xfe33, 0x5f⟩, ⟨0xfe34, 0xfe34, 0x5f⟩, ⟨0xfe35, 0xfe36, 0x28⟩, ⟨0xfe37, 0xfe37, 0x7b⟩,
    ⟨0xfe38, 0xfe38, 0x7d⟩, ⟨0xfe39, 0xfe3a, 0x3014⟩, ⟨0xfe3b, 0xfe3c, 0x3010⟩,
    ⟨0xfe3d, 0xfe3e, 0x300a⟩, ⟨0xfe3f, 0xfe40, 0x3008⟩, ⟨0xfe41, 0xfe44, 0x300c⟩,
    ⟨0xfe47, 0xfe47, 0x5b⟩, ⟨0xfe48, 0xfe48, 0x5d⟩, ⟨0xfe50, 0xfe50, 0x2c⟩,
    ⟨0xfe51, 0xfe51, 0x3001⟩, ⟨0xfe52, 0xfe52, 0x2e⟩, ⟨0xfe54, 0xfe54, 0x3b⟩,
    ⟨0xfe55, 0xfe55, 0x3a⟩, ⟨0xfe56, 0xfe56, 0x3f⟩, ⟨0xfe57, 0xfe57, 0x21⟩,
    ⟨0xfe58, 0xfe58, 0x2014⟩, ⟨0xfe59, 0xfe5a, 0x28⟩, ⟨0xfe5b, 0xfe5b, 0x7b⟩,
    ⟨0xfe5c, 0xfe5c, 0x7d⟩, ⟨0xfe5d, 0xfe5e, 0x3014⟩, ⟨0xfe5f, 0xfe5f, 0x23⟩,
    ⟨0xfe60, 0xfe60, 0x26⟩, ⟨0xfe61, 0xfe62, 0x2a⟩, ⟨0xfe63, 0xfe63, 0x2d⟩, ⟨0xfe64, 0xfe64, 0x3c⟩,
    ⟨0xfe65, 0xfe65, 0x3e⟩, ⟨0xfe66, 0xfe66, 0x3d⟩, ⟨0xfe68, 0xfe68, 0x5c⟩, ⟨0xfe69, 0xfe6a, 0x24⟩,
    ⟨0xfe6b, 0xfe6b, 0x40⟩, ⟨0xfe80, 0xfe81, 0x621⟩, ⟨0xfe82, 0xfe83, 0x622⟩,
    ⟨0xfe84, 0xfe85, 0x623⟩, ⟨0xfe86, 0xfe87, 0x624⟩, ⟨0xfe88, 0xfe89, 0x625⟩,
    ⟨0xfe8d, 0xfe8d, 0x627⟩, ⟨0xfe8e, 0xfe8f, 0x627⟩, ⟨0xfe93, 0xfe93, 0x629⟩,
    ⟨0xfe94, 0xfe95, 0x629⟩, ⟨0xfea9, 0xfea9, 0x62f⟩, ⟨0xfeaa, 0xfeab, 0x62f⟩,
    ⟨0xfeac, 0xfead, 0x630⟩, ⟨0xfeae, 0xfeaf, 0x631⟩, ⟨0xfeb0, 0xfeb1, 0x632⟩,
    ⟨0xfeed, 0xfeed, 0x648⟩, ⟨0xfeee, 0xfeef, 0x648⟩, ⟨0xfef0, 0xfef1, 0x649⟩,
    ⟨0xff01, 0xff5e, 0x21⟩, ⟨0xff5f, 0xff60, 0x2985⟩, ⟨0xff61, 0xff61, 0x3002⟩,
    ⟨0xff62, 0xff63, 0x300c⟩, ⟨0xff64, 0xff64, 0x3001⟩, ⟨0xff65, 0xff65, 0x30fb⟩,
    ⟨0xff66, 0xff66, 0x30f2⟩, ⟨0xff67, 0xff67, 0x30a1⟩, ⟨0xff68, 0xff68, 0x30a3⟩,
    ⟨0xff69, 0xff69, 0x30a5⟩, ⟨0xff6a, 0xff6a, 0x30a7⟩, ⟨0xff6b, 0xff6b, 0x30a9⟩,
    ⟨0xff6c, 0xff6c, 0x30e3⟩, ⟨0xff6d, 0xff6d, 0x30e5⟩, ⟨0xff6e, 0xff6e, 0x30e7⟩,
    ⟨0xff6f, 0xff6f, 0x30c3⟩, ⟨0xff70, 0xff70, 0x30fc⟩, ⟨0xff71, 0xff71, 0x30a2⟩,
    ⟨0xff72, 0xff72, 0x30a4⟩, ⟨0xff73, 0xff73, 0x30a6⟩, ⟨0xff74, 0xff74, 0x30a8⟩,
    ⟨0xff75, 0xff76, 0x30aa⟩, ⟨0xff77, 0xff77, 0x30ad⟩, ⟨0xff78, 0xff78, 0x30af⟩,
    ⟨0xff79, 0xff79, 0x30b1⟩, ⟨0xff7a, 0xff7a, 0x30b3⟩, ⟨0xff7b, 0xff7b, 0x30b5⟩,
    ⟨0xff7c, 0xff7c, 0x30b7⟩, ⟨0xff7d, 0xff7d, 0x30b9⟩, ⟨0xff7e, 0xff7e, 0x30bb⟩,
    ⟨0xff7f, 0xff7f, 0x30bd⟩, ⟨0xff80, 0xff80, 0x30bf⟩, ⟨0xff81, 0xff81, 0x30c1⟩,
    ⟨0xff82, 0xff82, 0x30c4⟩, ⟨0xff83, 0xff83, 0x30c6⟩, ⟨0xff84, 0xff84, 0x30c8⟩,
    ⟨0xff85, 0xff8a, 0x30ca⟩, ⟨0xff8b, 0xff8b, 0x30d2⟩, ⟨0xff8c, 0xff8c, 0x30d5⟩,
    ⟨0xff8d, 0xff8d, 0x30d8⟩, ⟨0xff8e, 0xff8e, 0x30db⟩, ⟨0xff8f, 0xff93, 0x30de⟩,
    ⟨0xff94, 0xff94, 0x30e4⟩, ⟨0xff95, 0xff95, 0x30e6⟩, ⟨0xff96, 0xff9b, 0x30e8⟩,
    ⟨0xff9c, 0xff9c, 0x30ef⟩, ⟨0xff9d, 0xff9d, 0x30f3⟩, ⟨0xff9e, 0xff9f, 0x3099⟩,
    ⟨0xffa0, 0xffa0, 0x1160⟩, ⟨0xffa1, 0xffa2, 0x1100⟩, ⟨0xffa3, 0xffa3, 0x11aa⟩,
    ⟨0xffa4, 0xffa4, 0x1102⟩, ⟨0xffa5, 0xffa6, 0x11ac⟩, ⟨0xffa7, 0xffa9, 0x1103⟩,
    ⟨0xffaa, 0xffaf, 0x11b0⟩, ⟨0xffb0, 0xffb0, 0x111a⟩, ⟨0xffb1, 0xffb3, 0x1106⟩,
    ⟨0xffb4, 0xffb4, 0x1121⟩, ⟨0xffb5, 0xffbe, 0x1109⟩, ⟨0xffc2, 0xffc7, 0x1161⟩,
    ⟨0xffca, 0xffcf, 0x1167⟩, ⟨0xffd2, 0xffd7, 0x116d⟩, ⟨0xffda, 0xffdc, 0x1173⟩,
    ⟨0xffe0, 0xffe1, 0xa2⟩, ⟨0xffe2, 0xffe2, 0xac⟩, ⟨0xffe4, 0xffe4, 0xa6⟩, ⟨0xffe5, 0xffe5, 0xa5⟩,
    ⟨0xffe6, 0xffe6, 0x20a9⟩, ⟨0xffe8, 0xffe8, 0x2502⟩, ⟨0xffe9, 0xffec, 0x2190⟩,
    ⟨0xffed, 0xffed, 0x25a0⟩, ⟨0xffee, 0xffee, 0x25cb⟩, ⟨0x10781, 0x10782, 0x2d0⟩,
    ⟨0x10783, 0x10783, 0xe6⟩, ⟨0x10784, 0x10784, 0x299⟩, ⟨0x10785, 0x10785, 0x253⟩,
    ⟨0x10787, 0x10787, 0x2a3⟩, ⟨0x10789, 0x10789, 0x2a5⟩, ⟨0x1078a, 0x1078a, 0x2a4⟩,
    ⟨0x1078b, 0x1078c, 0x256⟩, ⟨0x1078d, 0x1078d, 0x1d91⟩, ⟨0x1078e, 0x1078e, 0x258⟩,
    ⟨0x1078f, 0x1078f, 0x25e⟩, ⟨0x10790, 0x10790, 0x2a9⟩, ⟨0x10791, 0x10791, 0x264⟩,
    ⟨0x10792, 0x10792, 0x262⟩, ⟨0x10793, 0x10793, 0x260⟩, ⟨0x10794, 0x10794, 0x29b⟩,
    ⟨0x10795, 0x10795, 0x127⟩, ⟨0x10796, 0x10796, 0x29c⟩, ⟨0x10797, 0x10797, 0x267⟩,
    ⟨0x10798, 0x10798, 0x284⟩, ⟨0x10799, 0x1079a, 0x2aa⟩, ⟨0x1079b, 0x1079b, 0x26c⟩,
    ⟨0x1079e, 0x1079e, 0x26e⟩, ⟨0x107a0, 0x107a0, 0x28e⟩, ⟨0x107a2, 0x107a2, 0xf8⟩,
    ⟨0x107a3, 0x107a4, 0x276⟩, ⟨0x107a5, 0x107a5, 0x71⟩, ⟨0x107a6, 0x107a6, 0x27a⟩,
    ⟨0x107a8, 0x107a9, 0x27d⟩, ⟨0x107aa, 0x107aa, 0x280⟩, ⟨0x107ab, 0x107ab, 0x2a8⟩,
    ⟨0x107ac, 0x107ac, 0x2a6⟩, ⟨0x107ae, 0x107ae, 0x2a7⟩, ⟨0x107af, 0x107af, 0x288⟩,
    ⟨0x107b0, 0x107b0, 0x2c71⟩, ⟨0x107b2, 0x107b2, 0x28f⟩, ⟨0x107b3, 0x107b4, 0x2a1⟩,
    ⟨0x107b5, 0x107b5, 0x298⟩, ⟨0x107b6, 0x107b8, 0x1c0⟩, ⟨0x1d400, 0x1d419, 0x41⟩,
    ⟨0x1d41a, 0x1d433, 0x61⟩, ⟨0x1d434, 0x1d44d, 0x41⟩, ⟨0x1d44e, 0x1d454, 0x61⟩,
    ⟨0x1d456, 0x1d467, 0x69⟩, ⟨0x1d468, 0x1d481, 0x41⟩, ⟨0x1d482, 0x1d49b, 0x61⟩,
    ⟨0x1d49c, 0x1d49c, 0x41⟩, ⟨0x1d49e, 0x1d49f, 0x43⟩, ⟨0x1d4a2, 0x1d4a2, 0x47⟩,
    ⟨0x1d4a5, 0x1d4a6, 0x4a⟩, ⟨0x1d4a9, 0x1d4ac, 0x4e⟩, ⟨0x1d4ae, 0x1d4b5, 0x53⟩,
    ⟨0x1d4b6, 0x1d4b9, 0x61⟩, ⟨0x1d4bb, 0x1d4bb, 0x66⟩, ⟨0x1d4bd, 0x1d4c3, 0x68⟩,
    ⟨0x1d4c5, 0x1d4cf, 0x70⟩, ⟨0x1d4d0, 0x1d4e9, 0x41⟩, ⟨0x1d4ea, 0x1d503, 0x61⟩,
    ⟨0x1d504, 0x1d505, 0x41⟩, ⟨0x1d507, 0x1d50a, 0x44⟩, ⟨0x1d50d, 0x1d514, 0x4a⟩,
    ⟨0x1d516, 0x1d51c, 0x53⟩, ⟨0x1d51e, 0x1d537, 0x61⟩, ⟨0x1d538, 0x1d539, 0x41⟩,
    ⟨0x1d53b, 0x1d53e, 0x44⟩, ⟨0x1d540, 0x1d544, 0x49⟩, ⟨0x1d546, 0x1d546, 0x4f⟩,
    ⟨0x1d54a, 0x1d550, 0x53⟩, ⟨0x1d552, 0x1d56b, 0x61⟩, ⟨0x1d56c, 0x1d585, 0x41⟩,
    ⟨0x1d586, 0x1d59f, 0x61⟩, ⟨0x1d5a0, 0x1d5b9, 0x41⟩, ⟨0x1d5ba, 0x1d5d3, 0x61⟩,
    ⟨0x1d5d4, 0x1d5ed, 0x41⟩, ⟨0x1d5ee, 0x1d607, 0x61⟩, ⟨0x1d608, 0x1d621, 0x41⟩,
    ⟨0x1d622, 0x1d63b, 0x61⟩, ⟨0x1d63c, 0x1d655, 0x41⟩, ⟨0x1d656, 0x1d66f, 0x61⟩,
    ⟨0x1d670, 0x1d689, 0x41⟩, ⟨0x1d68a, 0x1d6a3, 0x61⟩, ⟨0x1d6a4, 0x1d6a4, 0x131⟩,
    ⟨0x1d6a5, 0x1d6a5, 0x237⟩, ⟨0x1d6a8, 0x1d6b8, 0x391⟩, ⟨0x1d6b9, 0x1d6b9, 0x398⟩,
    ⟨0x1d6ba, 0x1d6c0, 0x3a3⟩, ⟨0x1d6c1, 0x1d6c1, 0x2207⟩, ⟨0x1d6c2, 0x1d6da, 0x3b1⟩,
    ⟨0x1d6db, 0x1d6db, 0x2202⟩, ⟨0x1d6dc, 0x1d6dc, 0x3b5⟩, ⟨0x1d6dd, 0x1d6dd, 0x3b8⟩,
    ⟨0x1d6de, 0x1d6de, 0x3ba⟩, ⟨0x1d6df, 0x1d6df, 0x3c6⟩, ⟨0x1d6e0, 0x1d6e0, 0x3c1⟩,
    ⟨0x1d6e1, 0x1d6e1, 0x3c0⟩, ⟨0x1d6e2, 0x1d6f2, 0x391⟩, ⟨0x1d6f3, 0x1d6f3, 0x398⟩,
    ⟨0x1d6f4, 0x1d6fa, 0x3a3⟩, ⟨0x1d6fb, 0x1d6fb, 0x2207⟩, ⟨0x1d6fc, 0x1d714, 0x3b1⟩,
    ⟨0x1d715, 0x1d715, 0x2202⟩, ⟨0x1d716, 0x1d716, 0x3b5⟩, ⟨0x1d717, 0x1d717, 0x3b8⟩,
    ⟨0x1d718, 0x1d718, 0x3ba⟩, ⟨0x1d719, 0x1d719, 0x3c6⟩, ⟨0x1d71a, 0x1d71a, 0x3c1⟩,
    ⟨0x1d71b, 0x1d71b, 0x3c0⟩, ⟨0x1d71c, 0x1d72c, 0x391⟩, ⟨0x1d72d, 0x1d72d, 0x398⟩,
    ⟨0x1d72e, 0x1d734, 0x3a3⟩, ⟨0x1d735, 0x1d735, 0x2207⟩, ⟨0x1d736, 0x1d74e, 0x3b1⟩,
    ⟨0x1d74f, 0x1d74f, 0x2202⟩, ⟨0x1d750, 0x1d750, 0x3b5⟩, ⟨0x1d751, 0x1d751, 0x3b8⟩,
    ⟨0x1d752, 0x1d752, 0x3ba⟩, ⟨0x1d753, 0x1d753, 0x3c6⟩, ⟨0x1d754, 0x1d754, 0x3c1⟩,
    ⟨0x1d755, 0x1d755, 0x3c0⟩, ⟨0x1d756, 0x1d766, 0x391⟩, ⟨0x1d767, 0x1d767, 0x398⟩,
    ⟨0x1d768, 0x1d76e, 0x3a3⟩, ⟨0x1d76f, 0x1d76f, 0x2207⟩, ⟨0x1d770, 0x1d788, 0x3b1⟩,
    ⟨0x1d789, 0x1d789, 0x2202⟩, ⟨0x1d78a, 0x1d78a, 0x3b5⟩, ⟨0x1d78b, 0x1d78b, 0x3b8⟩,
    ⟨0x1d78c, 0x1d78c, 0x3ba⟩, ⟨0x1d78d, 0x1d78d, 0x3c6⟩, ⟨0x1d78e, 0x1d78e, 0x3c1⟩,
    ⟨0x1d78f, 0x1d78f, 0x3c0⟩, ⟨0x1d790, 0x1d7a0, 0x391⟩, ⟨0x1d7a1, 0x1d7a1, 0x398⟩,
    ⟨0x1d7a2, 0x1d7a8, 0x3a3⟩, ⟨0x1d7a9, 0x1d7a9, 0x2207⟩, ⟨0x1d7aa, 0x1d7c2, 0x3b1⟩,
    ⟨0x1d7c3, 0x1d7c3, 0x2202⟩, ⟨0x1d7c4, 0x1d7c4, 0x3b5⟩, ⟨0x1d7c5, 0x1d7c5, 0x3b8⟩,
    ⟨0x1d7c6, 0x1d7c6, 0x3ba⟩, ⟨0x1d7c7, 0x1d7c7, 0x3c6⟩, ⟨0x1d7c8, 0x1d7c8, 0x3c1⟩,
    ⟨0x1d7c9, 0x1d7c9, 0x3c0⟩, ⟨0x1d7ca, 0x1d7cb, 0x3dc⟩, ⟨0x1d7ce, 0x1d7d7, 0x30⟩,
    ⟨0x1d7d8, 0x1d7e1, 0x30⟩, ⟨0x1d7e2, 0x1d7eb, 0x30⟩, ⟨0x1d7ec, 0x1d7f5, 0x30⟩,
    ⟨0x1d7f6, 0x1d7ff, 0x30⟩, ⟨0x1ee00, 0x1ee01, 0x627⟩, ⟨0x1ee02, 0x1ee02, 0x62c⟩,
    ⟨0x1ee03, 0x1ee03, 0x62f⟩, ⟨0x1ee05, 0x1ee05, 0x648⟩, ⟨0x1ee06, 0x1ee06, 0x632⟩,
    ⟨0x1ee07, 0x1ee07, 0x62d⟩, ⟨0x1ee08, 0x1ee08, 0x637⟩, ⟨0x1ee09, 0x1ee09, 0x64a⟩,
    ⟨0x1ee0a, 0x1ee0d, 0x643⟩, ⟨0x1ee0e, 0x1ee0e, 0x633⟩, ⟨0x1ee0f, 0x1ee0f, 0x639⟩,
    ⟨0x1ee10, 0x1ee10, 0x641⟩, ⟨0x1ee11, 0x1ee11, 0x635⟩, ⟨0x1ee12, 0x1ee12, 0x642⟩,
    ⟨0x1ee13, 0x1ee13, 0x631⟩, ⟨0x1ee14, 0x1ee14, 0x634⟩, ⟨0x1ee15, 0x1ee16, 0x62a⟩,
    ⟨0x1ee17, 0x1ee17, 0x62e⟩, ⟨0x1ee18, 0x1ee18, 0x630⟩, ⟨0x1ee19, 0x1ee19, 0x636⟩,
    ⟨0x1ee1a, 0x1ee1a, 0x638⟩, ⟨0x1ee1b, 0x1ee1b, 0x63a⟩, ⟨0x1ee1c, 0x1ee1c, 0x66e⟩,
    ⟨0x1ee1d, 0x1ee1d, 0x6ba⟩, ⟨0x1ee1e, 0x1ee1e, 0x6a1⟩, ⟨0x1ee1f, 0x1ee1f, 0x66f⟩,
    ⟨0x1ee21, 0x1ee21, 0x628⟩, ⟨0x1ee22, 0x1ee22, 0x62c⟩, ⟨0x1ee24, 0x1ee24, 0x647⟩,
    ⟨0x1ee27, 0x1ee27, 0x62d⟩, ⟨0x1ee29, 0x1ee29, 0x64a⟩, ⟨0x1ee2a, 0x1ee2d, 0x643⟩,
    ⟨0x1ee2e, 0x1ee2e, 0x633⟩, ⟨0x1ee2f, 0x1ee2f, 0x639⟩, ⟨0x1ee30, 0x1ee30, 0x641⟩,
    ⟨0x1ee31, 0x1ee31, 0x635⟩, ⟨0x1ee32, 0x1ee32, 0x642⟩, ⟨0x1ee34, 0x1ee34, 0x634⟩,
    ⟨0x1ee35, 0x1ee36, 0x62a⟩, ⟨0x1ee37, 0x1ee37, 0x62e⟩, ⟨0x1ee39, 0x1ee39, 0x636⟩,
    ⟨0x1ee3b, 0x1ee3b, 0x63a⟩, ⟨0x1ee42, 0x1ee42, 0x62c⟩, ⟨0x1ee47, 0x1ee47, 0x62d⟩,
    ⟨0x1ee49, 0x1ee49, 0x64a⟩, ⟨0x1ee4b, 0x1ee4b, 0x644⟩, ⟨0x1ee4d, 0x1ee4d, 0x646⟩,
    ⟨0x1ee4e, 0x1ee4e, 0x633⟩, ⟨0x1ee4f, 0x1ee4f, 0x639⟩, ⟨0x1ee51, 0x1ee51, 0x635⟩,
    ⟨0x1ee52, 0x1ee52, 0x642⟩, ⟨0x1ee54, 0x1ee54, 0x634⟩, ⟨0x1ee57, 0x1ee57, 0x62e⟩,
    ⟨0x1ee59, 0x1ee59, 0x636⟩, ⟨0x1ee5b, 0x1ee5b, 0x63a⟩, ⟨0x1ee5d, 0x1ee5d, 0x6ba⟩,
    ⟨0x1ee5f, 0x1ee5f, 0x66f⟩, ⟨0x1ee61, 0x1ee61, 0x628⟩, ⟨0x1ee62, 0x1ee62, 0x62c⟩,
    ⟨0x1ee64, 0x1ee64, 0x647⟩, ⟨0x1ee67, 0x1ee67, 0x62d⟩, ⟨0x1ee68, 0x1ee68, 0x637⟩,
    ⟨0x1ee69, 0x1ee69, 0x64a⟩, ⟨0x1ee6a, 0x1ee6a, 0x643⟩, ⟨0x1ee6c, 0x1ee6d, 0x645⟩,
    ⟨0x1ee6e, 0x1ee6e, 0x633⟩, ⟨0x1ee6f, 0x1ee6f, 0x639⟩, ⟨0x1ee70, 0x1ee70, 0x641⟩,
    ⟨0x1ee71, 0x1ee71, 0x635⟩, ⟨0x1ee72, 0x1ee72, 0x642⟩, ⟨0x1ee74, 0x1ee74, 0x634⟩,
    ⟨0x1ee75, 0x1ee76, 0x62a⟩, ⟨0x1ee77, 0x1ee77, 0x62e⟩, ⟨0x1ee79, 0x1ee79, 0x636⟩,
    ⟨0x1ee7a, 0x1ee7a, 0x638⟩, ⟨0x1ee7b, 0x1ee7b, 0x63a⟩, ⟨0x1ee7c, 0x1ee7c, 0x66e⟩,
    ⟨0x1ee7e, 0x1ee7e, 0x6a1⟩, ⟨0x1ee80, 0x1ee81, 0x627⟩, ⟨0x1ee82, 0x1ee82, 0x62c⟩,
    ⟨0x1ee83, 0x1ee83, 0x62f⟩, ⟨0x1ee84, 0x1ee85, 0x647⟩, ⟨0x1ee86, 0x1ee86, 0x632⟩,
    ⟨0x1ee87, 0x1ee87, 0x62d⟩, ⟨0x1ee88, 0x1ee88, 0x637⟩, ⟨0x1ee89, 0x1ee89, 0x64a⟩,
    ⟨0x1ee8b, 0x1ee8d, 0x644⟩, ⟨0x1ee8e, 0x1ee8e, 0x633⟩, ⟨0x1ee8f, 0x1ee8f, 0x639⟩,
    ⟨0x1ee90, 0x1ee90, 0x641⟩, ⟨0x1ee91, 0x1ee91, 0x635⟩, ⟨0x1ee92, 0x1ee92, 0x642⟩,
    ⟨0x1ee93, 0x1ee93, 0x631⟩, ⟨0x1ee94, 0x1ee94, 0x634⟩, ⟨0x1ee95, 0x1ee96, 0x62a⟩,
    ⟨0x1ee97, 0x1ee97, 0x62e⟩, ⟨0x1ee98, 0x1ee98, 0x630⟩, ⟨0x1ee99, 0x1ee99, 0x636⟩,
    ⟨0x1ee9a, 0x1ee9a, 0x638⟩, ⟨0x1ee9b, 0x1ee9b, 0x63a⟩, ⟨0x1eea1, 0x1eea1, 0x628⟩,
    ⟨0x1eea2, 0x1eea2, 0x62c⟩, ⟨0x1eea3, 0x1eea3, 0x62f⟩, ⟨0x1eea5, 0x1eea5, 0x648⟩,
    ⟨0x1eea6, 0x1eea6, 0x632⟩, ⟨0x1eea7, 0x1eea7, 0x62d⟩, ⟨0x1eea8, 0x1eea8, 0x637⟩,
    ⟨0x1eea9, 0x1eea9, 0x64a⟩, ⟨0x1eeab, 0x1eead, 0x644⟩, ⟨0x1eeae, 0x1eeae, 0x633⟩,
    ⟨0x1eeaf, 0x1eeaf, 0x639⟩, ⟨0x1eeb0, 0x1eeb0, 0x641⟩, ⟨0x1eeb1, 0x1eeb1, 0x635⟩,
    ⟨0x1eeb2, 0x1eeb2, 0x642⟩, ⟨0x1eeb3, 0x1eeb3, 0x631⟩, ⟨0x1eeb4, 0x1eeb4, 0x634⟩,
    ⟨0x1eeb5, 0x1eeb6, 0x62a⟩, ⟨0x1eeb7, 0x1eeb7, 0x62e⟩, ⟨0x1eeb8, 0x1eeb8, 0x630⟩,
    ⟨0x1eeb9, 0x1eeb9, 0x636⟩, ⟨0x1eeba, 0x1eeba, 0x638⟩, ⟨0x1eebb, 0x1eebb, 0x63a⟩,
    ⟨0x1f12b, 0x1f12b, 0x43⟩, ⟨0x1f12c, 0x1f12c, 0x52⟩, ⟨0x1f130, 0x1f149, 0x41⟩,
    ⟨0x1f202, 0x1f202, 0x30b5⟩, ⟨0x1f213, 0x1f213, 0x30c7⟩, ⟨0x1fbf0, 0x1fbf9, 0x30⟩]

/-- Stretches whose code points are all replaced with the target. -/
def merges : List Mapping := [
    ⟨0x2000, 0x200a, 0x20⟩, ⟨0x210b, 0x210d, 0x48⟩, ⟨0xfb52, 0xfb55, 0x67b⟩,
    ⟨0xfb56, 0xfb59, 0x67e⟩, ⟨0xfb5a, 0xfb5d, 0x680⟩, ⟨0xfb5e, 0xfb61, 0x67a⟩,
    ⟨0xfb62, 0xfb65, 0x67f⟩, ⟨0xfb66, 0xfb69, 0x679⟩, ⟨0xfb6a, 0xfb6d, 0x6a4⟩,
    ⟨0xfb6e, 0xfb71, 0x6a6⟩, ⟨0xfb72, 0xfb75, 0x684⟩, ⟨0xfb76, 0xfb79, 0x683⟩,
    ⟨0xfb7a, 0xfb7d, 0x686⟩, ⟨0xfb7e, 0xfb81, 0x687⟩, ⟨0xfb8e, 0xfb91, 0x6a9⟩,
    ⟨0xfb92, 0xfb95, 0x6af⟩, ⟨0xfb96, 0xfb99, 0x6b3⟩, ⟨0xfb9a, 0xfb9d, 0x6b1⟩,
    ⟨0xfba1, 0xfba3, 0x6bb⟩, ⟨0xfba7, 0xfba9, 0x6c1⟩, ⟨0xfbaa, 0xfbad, 0x6be⟩,
    ⟨0xfbd3, 0xfbd6, 0x6ad⟩, ⟨0xfbe4, 0xfbe7, 0x6d0⟩, ⟨0xfbfc, 0xfbff, 0x6cc⟩,
    ⟨0xfe4d, 0xfe4f, 0x5f⟩, ⟨0xfe8a, 0xfe8c, 0x626⟩, ⟨0xfe90, 0xfe92, 0x628⟩,
    ⟨0xfe96, 0xfe98, 0x62a⟩, ⟨0xfe99, 0xfe9c, 0x62b⟩, ⟨0xfe9d, 0xfea0, 0x62c⟩,
    ⟨0xfea1, 0xfea4, 0x62d⟩, ⟨0xfea5, 0xfea8, 0x62e⟩, ⟨0xfeb2, 0xfeb4, 0x633⟩,
    ⟨0xfeb5, 0xfeb8, 0x634⟩, ⟨0xfeb9, 0xfebc, 0x635⟩, ⟨0xfebd, 0xfec0, 0x636⟩,
    ⟨0xfec1, 0xfec4, 0x637⟩, ⟨0xfec5, 0xfec8, 0x638⟩, ⟨0xfec9, 0xfecc, 0x639⟩,
    ⟨0xfecd, 0xfed0, 0x63a⟩, ⟨0xfed1, 0xfed4, 0x641⟩, ⟨0xfed5, 0xfed8, 0x642⟩,
    ⟨0xfed9, 0xfedc, 0x643⟩, ⟨0xfedd, 0xfee0, 0x644⟩, ⟨0xfee1, 0xfee4, 0x645⟩,
    ⟨0xfee5, 0xfee8, 0x646⟩, ⟨0xfee9, 0xfeec, 0x647⟩, ⟨0xfef2, 0xfef4, 0x64a⟩]

/-- Ideographs that are replaced with one character each: the first code point of each stretch,
and the characters for it and those behind it. -/
def ideographs : List (Nat × String) := [
    (0x2e9f, "母"), (0x2ef3, "龟"), (0x2f00, "一丨丶丿乙亅二亠人儿入八冂冖冫几凵刀力勹匕匚匸十卜卩厂厶又口囗土士夂夊夕大女子宀"),
    (0x2f28, "寸小尢尸屮山巛工己巾干幺广廴廾弋弓彐彡彳心戈戶手支攴文斗斤方无日曰月木欠止歹殳毋"),
    (0x2f50, "比毛氏气水火爪父爻爿片牙牛犬玄玉瓜瓦甘生用田疋疒癶白皮皿目矛矢石示禸禾穴立竹米糸"),
    (0x2f78, "缶网羊羽老而耒耳聿肉臣自至臼舌舛舟艮色艸虍虫血行衣襾見角言谷豆豕豸貝赤走足身車辛"),
    (0x2fa0, "辰辵邑酉釆里金長門阜隶隹雨靑非面革韋韭音頁風飛食首香馬骨高髟鬥鬯鬲鬼魚鳥鹵鹿麥麻"), (0x2fc8, "黃黍黑黹黽鼎鼓鼠鼻齊齒龍龜龠"),
    (0x3038, "十卄卅"), (0x3192, "一二三四上中下甲乙丙丁天地人"), (0x3244, "問幼文箏"),
    (0x3280, "一二三四五六七八九十月火水木金土日株有社名特財祝労秘男女適優印注項休写正上中下左"), (0x32a8, "右医宗学監企資協夜"), (0xa770, "ꝯ"),
    (0xab5c, "ꜧꬷ"), (0xab5f, "ꭒ"), (0xf900, "豈更車賈滑串句龜龜契金喇奈懶癩羅蘿螺裸邏樂洛烙珞落酪駱亂卵欄爛蘭鸞嵐濫藍襤拉臘蠟"),
    (0xf928, "廊朗浪狼郎來冷勞擄櫓爐盧老蘆虜路露魯鷺碌祿綠菉錄鹿論壟弄籠聾牢磊賂雷壘屢樓淚漏累"),
    (0xf950, "縷陋勒肋凜凌稜綾菱陵讀拏樂諾丹寧怒率異北磻便復不泌數索參塞省葉說殺辰沈拾若掠略亮"),
    (0xf978, "兩凉梁糧良諒量勵呂女廬旅濾礪閭驪麗黎力曆歷轢年憐戀撚漣煉璉秊練聯輦蓮連鍊列劣咽烈"),
    (0xf9a0, "裂說廉念捻殮簾獵令囹寧嶺怜玲瑩羚聆鈴零靈領例禮醴隸惡了僚寮尿料樂燎療蓼遼龍暈阮劉"),
    (0xf9c8, "杻柳流溜琉留硫紐類六戮陸倫崙淪輪律慄栗率隆利吏履易李梨泥理痢罹裏裡里離匿溺吝燐璘"),
    (0xf9f0, "藺隣鱗麟林淋臨立笠粒狀炙識什茶刺切度拓糖宅洞暴輻行降見廓兀嗀"), (0xfa10, "塚"), (0xfa12, "晴"),
    (0xfa15, "凞猪益礼神祥福靖精羽"), (0xfa20, "蘒"), (0xfa22, "諸"), (0xfa25, "逸都"),
    (0xfa2a, "飯飼館鶴郞隷侮僧免勉勤卑喝嘆器塀墨層屮悔慨憎懲敏既暑梅海渚漢煮爫琢碑社祉祈祐祖祝"), (0xfa52, "禍禎穀突節練縉繁署者臭艹艹著褐視謁謹賓贈辶逸難響頻恵𤋮舘"),
    (0xfa70, "並况全侀充冀勇勺喝啕喙嗢塚墳奄奔婢嬨廒廙彩徭惘慎愈憎慠懲戴揄搜摒敖晴朗望杖歹殺流"),
    (0xfa98, "滛滋漢瀞煮瞧爵犯猪瑱甆画瘝瘟益盛直睊着磌窱節类絛練缾者荒華蝹襁覆視調諸請謁諾諭謹"), (0xfac0, "變贈輸遲醙鉶陼難靖韛響頋頻鬒龜𢡊𢡄𣏕㮝䀘䀹𥉉𥳐𧻓齃龎"),
    (0x10788, "ꭦ"), (0x1079c, "𝼄ꞎ"), (0x1079f, "𝼅"), (0x107a1, "𝼆"), (0x107a7, "𝼈"),
    (0x107ad, "ꭧ"), (0x107b9, "𝼊𝼞"), (0x1f210, "手字双"),
    (0x1f214, "二多解天交映無料前後再新初終生販声吹演投捕一三遊左中右指走打禁空合満有月申割営配"), (0x1f250, "得可"),
    (0x2f800, "丽丸乁𠄢你侮侻倂偺備僧像㒞𠘺免兔兤具𠔜㒹內再𠕋冗冤仌冬况𩇟凵刃㓟刻剆割剷㔕勇勉勤"),
    (0x2f828, "勺包匆北卉卑博即卽卿卿卿𠨬灰及叟𠭣叫叱吆咞吸呈周咢哶唐啓啣善善喙喫喳嗂圖嘆圗噑噴"),
    (0x2f850, "切壮城埴堍型堲報墬𡓤売壷夆多夢奢𡚨𡛪姬娛娧姘婦㛮㛼嬈嬾嬾𡧈寃寘寧寳𡬘寿将当尢㞁屠"),
    (0x2f878, "屮峀岍𡷤嵃𡷦嵮嵫嵼巡巢㠯巽帨帽幩㡢𢆃㡼庰庳庶廊𪎒廾𢌱𢌱舁弢弢㣇𣊸𦇚形彫㣣徚忍志忹"),
    (0x2f8a0, "悁㤺㤜悔𢛔惇慈慌慎慌慺憎憲憤憯懞懲懶成戛扝抱拔捐𢬌挽拼捨掃揤𢯱搢揅掩㨮摩摾撝摷㩬"),
    (0x2f8c8, "敏敬𣀊旣書晉㬙暑㬈㫤冒冕最暜肭䏙朗望朡杞杓𣏃㭉柺枅桒梅𣑭梎栟椔㮝楂榣槪檨𣚣櫛㰘次"),
    (0x2f8f0, "𣢧歔㱎歲殟殺殻𣪍𡴋𣫺汎𣲼沿泍汧洖派海流浩浸涅𣴞洴港湮㴳滋滇𣻑淹潮𣽞𣾎濆瀹瀞瀛㶖灊"),
    (0x2f918, "災灷炭𠔥煅𤉣熜𤎫爨爵牐𤘈犀犕𤜵𤠔獺王㺬玥㺸㺸瑇瑜瑱璅瓊㼛甤𤰶甾𤲒異𢆟瘐𤾡𤾸𥁄㿼䀈"),
    (0x2f940, "直𥃳𥃲𥄙𥄳眞真真睊䀹瞋䁆䂖𥐝硎碌磌䃣𥘦祖𥚚𥛅福秫䄯穀穊穏𥥼𥪧𥪧竮䈂𥮫篆築䈧𥲀糒䊠"),
    (0x2f968, "糨糣紀𥾆絣䌁緇縂繅䌴𦈨𦉇䍙𦋙罺𦌾羕翺者𦓚𦔣聠𦖨聰𣍟䏕育脃䐋脾媵𦞧𦞵𣎓𣎜舁舄辞䑫芑"),
    (0x2f990, "芋芝劳花芳芽苦𦬼若茝荣莭茣莽菧著荓菊菌菜𦰶𦵫𦳕䔫蓱蓳蔖𧏊蕤𦼬䕝䕡𦾱𧃒䕫虐虜虧虩蚩"),
    (0x2f9b8, "蚈蜎蛢蝹蜨蝫螆䗗蟡蠁䗹衠衣𧙧裗裞䘵裺㒻𧢮𧥦䚾䛇誠諭變豕𧲨貫賁贛起𧼯𠠄跋趼跰𠣞軔輸"),
    (0x2f9e0, "𨗒𨗭邔郱鄑𨜮鄛鈸鋗鋘鉼鏹鐕𨯺開䦕閷𨵷䧦雃嶲霣𩅅𩈚䩮䩶韠𩐊䪲𩒖頋頋頩𩖶飢䬳餩馧駂駾"), (0x2fa08, "䯎𩬰鬒鱀鳽䳎䳭鵧𪃎䳸𪄅𪈎𪊑麻䵖黹黾鼅鼏鼖鼻𪘀")]

/-- Letters and symbols that are replaced with several characters. -/
def spellings : List (Nat × String) := [
    (0xa8, " \u0308"), (0xaf, " \u0304"), (0xb4, " \u0301"), (0xb8, " \u0327"), (0xbc, "1\u20444"),
    (0xbd, "1\u20442"), (0xbe, "3\u20444"), (0x132, "IJ"), (0x133, "ij"), (0x13f, "L\u00b7"),
    (0x140, "l\u00b7"), (0x149, "\u02bcn"), (0x1c4, "D\u017d"), (0x1c5, "D\u017e"),
    (0x1c6, "d\u017e"), (0x1c7, "LJ"), (0x1c8, "Lj"), (0x1c9, "lj"), (0x1ca, "NJ"), (0x1cb, "Nj"),
    (0x1cc, "nj"), (0x1f1, "DZ"), (0x1f2, "Dz"), (0x1f3, "dz"), (0x2d8, " \u0306"),
    (0x2d9, " \u0307"), (0x2da, " \u030a"), (0x2db, " \u0328"), (0x2dc, " \u0303"),
    (0x2dd, " \u030b"), (0x344, "\u0308\u0301"), (0x37a, " \u0345"), (0x384, " \u0301"),
    (0x385, " \u0308\u0301"), (0x587, "\u0565\u0582"), (0x675, "\u0627\u0674"),
    (0x676, "\u0648\u0674"), (0x677, "\u06c7\u0674"), (0x678, "\u064a\u0674"),
    (0x958, "\u0915\u093c"), (0x959, "\u0916\u093c"), (0x95a, "\u0917\u093c"),
    (0x95b, "\u091c\u093c"), (0x95c, "\u0921\u093c"), (0x95d, "\u0922\u093c"),
    (0x95e, "\u092b\u093c"), (0x95f, "\u092f\u093c"), (0x9dc, "\u09a1\u09bc"),
    (0x9dd, "\u09a2\u09bc"), (0x9df, "\u09af\u09bc"), (0xa33, "\u0a32\u0a3c"),
    (0xa36, "\u0a38\u0a3c"), (0xa59, "\u0a16\u0a3c"), (0xa5a, "\u0a17\u0a3c"),
    (0xa5b, "\u0a1c\u0a3c"), (0xa5e, "\u0a2b\u0a3c"), (0xb5c, "\u0b21\u0b3c"),
    (0xb5d, "\u0b22\u0b3c"), (0xe33, "\u0e4d\u0e32"), (0xeb3, "\u0ecd\u0eb2"),
    (0xedc, "\u0eab\u0e99"), (0xedd, "\u0eab\u0ea1"), (0xf43, "\u0f42\u0fb7"),
    (0xf4d, "\u0f4c\u0fb7"), (0xf52, "\u0f51\u0fb7"), (0xf57, "\u0f56\u0fb7"),
    (0xf5c, "\u0f5b\u0fb7"), (0xf69, "\u0f40\u0fb5"), (0xf73, "\u0f71\u0f72"),
    (0xf75, "\u0f71\u0f74"), (0xf76, "\u0fb2\u0f80"), (0xf77, "\u0fb2\u0f71\u0f80"),
    (0xf78, "\u0fb3\u0f80"), (0xf79, "\u0fb3\u0f71\u0f80"), (0xf81, "\u0f71\u0f80"),
    (0xf93, "\u0f92\u0fb7"), (0xf9d, "\u0f9c\u0fb7"), (0xfa2, "\u0fa1\u0fb7"),
    (0xfa7, "\u0fa6\u0fb7"), (0xfac, "\u0fab\u0fb7"), (0xfb9, "\u0f90\u0fb5"), (0x1e9a, "a\u02be"),
    (0x1fbd, " \u0313"), (0x1fbf, " \u0313"), (0x1fc0, " \u0342"), (0x1fc1, " \u0308\u0342"),
    (0x1fcd, " \u0313\u0300"), (0x1fce, " \u0313\u0301"), (0x1fcf, " \u0313\u0342"),
    (0x1fdd, " \u0314\u0300"), (0x1fde, " \u0314\u0301"), (0x1fdf, " \u0314\u0342"),
    (0x1fed, " \u0308\u0300"), (0x1fee, " \u0308\u0301"), (0x1ffd, " \u0301"), (0x1ffe, " \u0314"),
    (0x2017, " \u0333"), (0x2025, ".."), (0x2026, "..."), (0x2033, "\u2032\u2032"),
    (0x2034, "\u2032\u2032\u2032"), (0x2036, "\u2035\u2035"), (0x2037, "\u2035\u2035\u2035"),
    (0x203c, "!!"), (0x203e, " \u0305"), (0x2047, "??"), (0x2048, "?!"), (0x2049, "!?"),
    (0x2057, "\u2032\u2032\u2032\u2032"), (0x20a8, "Rs"), (0x2100, "a/c"), (0x2101, "a/s"),
    (0x2103, "\u00b0C"), (0x2105, "c/o"), (0x2106, "c/u"), (0x2109, "\u00b0F"), (0x2116, "No"),
    (0x2120, "SM"), (0x2121, "TEL"), (0x2122, "TM"), (0x213b, "FAX"), (0x2150, "1\u20447"),
    (0x2151, "1\u20449"), (0x2152, "1\u204410"), (0x2153, "1\u20443"), (0x2154, "2\u20443"),
    (0x2155, "1\u20445"), (0x2156, "2\u20445"), (0x2157, "3\u20445"), (0x2158, "4\u20445"),
    (0x2159, "1\u20446"), (0x215a, "5\u20446"), (0x215b, "1\u20448"), (0x215c, "3\u20448"),
    (0x215d, "5\u20448"), (0x215e, "7\u20448"), (0x215f, "1\u2044"), (0x2161, "II"),
    (0x2162, "III"), (0x2163, "IV"), (0x2165, "VI"), (0x2166, "VII"), (0x2167, "VIII"),
    (0x2168, "IX"), (0x216a, "XI"), (0x216b, "XII"), (0x2171, "ii"), (0x2172, "iii"),
    (0x2173, "iv"), (0x2175, "vi"), (0x2176, "vii"), (0x2177, "viii"), (0x2178, "ix"),
    (0x217a, "xi"), (0x217b, "xii"), (0x2189, "0\u20443"), (0x222c, "\u222b\u222b"),
    (0x222d, "\u222b\u222b\u222b"), (0x222f, "\u222e\u222e"), (0x2230, "\u222e\u222e\u222e"),
    (0x2469, "10"), (0x246a, "11"), (0x246b, "12"), (0x246c, "13"), (0x246d, "14"), (0x246e, "15"),
    (0x246f, "16"), (0x2470, "17"), (0x2471, "18"), (0x2472, "19"), (0x2473, "20"),
    (0x2474, "(1)"), (0x2475, "(2)"), (0x2476, "(3)"), (0x2477, "(4)"), (0x2478, "(5)"),
    (0x2479, "(6)"), (0x247a, "(7)"), (0x247b, "(8)"), (0x247c, "(9)"), (0x247d, "(10)"),
    (0x247e, "(11)"), (0x247f, "(12)"), (0x2480, "(13)"), (0x2481, "(14)"), (0x2482, "(15)"),
    (0x2483, "(16)"), (0x2484, "(17)"), (0x2485, "(18)"), (0x2486, "(19)"), (0x2487, "(20)"),
    (0x2488, "1."), (0x2489, "2."), (0x248a, "3."), (0x248b, "4."), (0x248c, "5."), (0x248d, "6."),
    (0x248e, "7."), (0x248f, "8."), (0x2490, "9."), (0x2491, "10."), (0x2492, "11."),
    (0x2493, "12."), (0x2494, "13."), (0x2495, "14."), (0x2496, "15."), (0x2497, "16."),
    (0x2498, "17."), (0x2499, "18."), (0x249a, "19."), (0x249b, "20."), (0x249c, "(a)"),
    (0x249d, "(b)"), (0x249e, "(c)"), (0x249f, "(d)"), (0x24a0, "(e)"), (0x24a1, "(f)"),
    (0x24a2, "(g)"), (0x24a3, "(h)"), (0x24a4, "(i)"), (0x24a5, "(j)"), (0x24a6, "(k)"),
    (0x24a7, "(l)"), (0x24a8, "(m)"), (0x24a9, "(n)"), (0x24aa, "(o)"), (0x24ab, "(p)"),
    (0x24ac, "(q)"), (0x24ad, "(r)"), (0x24ae, "(s)"), (0x24af, "(t)"), (0x24b0, "(u)"),
    (0x24b1, "(v)"), (0x24b2, "(w)"), (0x24b3, "(x)"), (0x24b4, "(y)"), (0x24b5, "(z)"),
    (0x2a0c, "\u222b\u222b\u222b\u222b"), (0x2a74, "::="), (0x2a75, "=="), (0x2a76, "==="),
    (0x2adc, "\u2add\u0338"), (0x309b, " \u3099"), (0x309c, " \u309a"), (0x309f, "より"),
    (0x30ff, "コト"), (0x3200, "(\u1100)"), (0x3201, "(\u1102)"), (0x3202, "(\u1103)"),
    (0x3203, "(\u1105)"), (0x3204, "(\u1106)"), (0x3205, "(\u1107)"), (0x3206, "(\u1109)"),
    (0x3207, "(\u110b)"), (0x3208, "(\u110c)"), (0x3209, "(\u110e)"), (0x320a, "(\u110f)"),
    (0x320b, "(\u1110)"), (0x320c, "(\u1111)"), (0x320d, "(\u1112)"), (0x320e, "(\uac00)"),
    (0x320f, "(\ub098)"), (0x3210, "(\ub2e4)"), (0x3211, "(\ub77c)"), (0x3212, "(\ub9c8)"),
    (0x3213, "(\ubc14)"), (0x3214, "(\uc0ac)"), (0x3215, "(\uc544)"), (0x3216, "(\uc790)"),
    (0x3217, "(\ucc28)"), (0x3218, "(\uce74)"), (0x3219, "(\ud0c0)"), (0x321a, "(\ud30c)"),
    (0x321b, "(\ud558)"), (0x321c, "(\uc8fc)"), (0x321d, "(\uc624\uc804)"),
    (0x321e, "(\uc624\ud6c4)"), (0x3220, "(一)"), (0x3221, "(二)"), (0x3222, "(三)"), (0x3223, "(四)"),
    (0x3224, "(五)"), (0x3225, "(六)"), (0x3226, "(七)"), (0x3227, "(八)"), (0x3228, "(九)"),
    (0x3229, "(十)"), (0x322a, "(月)"), (0x322b, "(火)"), (0x322c, "(水)"), (0x322d, "(木)"),
    (0x322e, "(金)"), (0x322f, "(土)"), (0x3230, "(日)"), (0x3231, "(株)"), (0x3232, "(有)"),
    (0x3233, "(社)"), (0x3234, "(名)"), (0x3235, "(特)"), (0x3236, "(財)"), (0x3237, "(祝)"),
    (0x3238, "(労)"), (0x3239, "(代)"), (0x323a, "(呼)"), (0x323b, "(学)"), (0x323c, "(監)"),
    (0x323d, "(企)"), (0x323e, "(資)"), (0x323f, "(協)"), (0x3240, "(祭)"), (0x3241, "(休)"),
    (0x3242, "(自)"), (0x3243, "(至)"), (0x3250, "PTE"), (0x3251, "21"), (0x3252, "22"),
    (0x3253, "23"), (0x3254, "24"), (0x3255, "25"), (0x3256, "26"), (0x3257, "27"), (0x3258, "28"),
    (0x3259, "29"), (0x325a, "30"), (0x325b, "31"), (0x325c, "32"), (0x325d, "33"), (0x325e, "34"),
    (0x325f, "35"), (0x327c, "\ucc38\uace0"), (0x327d, "\uc8fc\uc758"), (0x32b1, "36"),
    (0x32b2, "37"), (0x32b3, "38"), (0x32b4, "39"), (0x32b5, "40"), (0x32b6, "41"), (0x32b7, "42"),
    (0x32b8, "43"), (0x32b9, "44"), (0x32ba, "45"), (0x32bb, "46"), (0x32bc, "47"), (0x32bd, "48"),
    (0x32be, "49"), (0x32bf, "50"), (0x32c0, "1月"), (0x32c1, "2月"), (0x32c2, "3月"), (0x32c3, "4月"),
    (0x32c4, "5月"), (0x32c5, "6月"), (0x32c6, "7月"), (0x32c7, "8月"), (0x32c8, "9月"),
    (0x32c9, "10月"), (0x32ca, "11月"), (0x32cb, "12月"), (0x32cc, "Hg"), (0x32cd, "erg"),
    (0x32ce, "eV"), (0x32cf, "LTD"), (0x32ff, "令和"), (0x3300, "アパート"), (0x3301, "アルファ"),
    (0x3302, "アンペア"), (0x3303, "アール"), (0x3304, "イニング"), (0x3305, "インチ"), (0x3306, "ウォン"),
    (0x3307, "エスクード"), (0x3308, "エーカー"), (0x3309, "オンス"), (0x330a, "オーム"), (0x330b, "カイリ"),
    (0x330c, "カラット"), (0x330d, "カロリー"), (0x330e, "ガロン"), (0x330f, "ガンマ"), (0x3310, "ギガ"),
    (0x3311, "ギニー"), (0x3312, "キュリー"), (0x3313, "ギルダー"), (0x3314, "キロ"), (0x3315, "キログラム"),
    (0x3316, "キロメートル"), (0x3317, "キロワット"), (0x3318, "グラム"), (0x3319, "グラムトン"), (0x331a, "クルゼイロ"),
    (0x331b, "クローネ"), (0x331c, "ケース"), (0x331d, "コルナ"), (0x331e, "コーポ"), (0x331f, "サイクル"),
    (0x3320, "サンチーム"), (0x3321, "シリング"), (0x3322, "センチ"), (0x3323, "セント"), (0x3324, "ダース"),
    (0x3325, "デシ"), (0x3326, "ドル"), (0x3327, "トン"), (0x3328, "ナノ"), (0x3329, "ノット"),
    (0x332a, "ハイツ"), (0x332b, "パーセント"), (0x332c, "パーツ"), (0x332d, "バーレル"), (0x332e, "ピアストル"),
    (0x332f, "ピクル"), (0x3330, "ピコ"), (0x3331, "ビル"), (0x3332, "ファラッド"), (0x3333, "フィート"),
    (0x3334, "ブッシェル"), (0x3335, "フラン"), (0x3336, "ヘクタール"), (0x3337, "ペソ"), (0x3338, "ペニヒ"),
    (0x3339, "ヘルツ"), (0x333a, "ペンス"), (0x333b, "ページ"), (0x333c, "ベータ"), (0x333d, "ポイント"),
    (0x333e, "ボルト"), (0x333f, "ホン"), (0x3340, "ポンド"), (0x3341, "ホール"), (0x3342, "ホーン"),
    (0x3343, "マイクロ"), (0x3344, "マイル"), (0x3345, "マッハ"), (0x3346, "マルク"), (0x3347, "マンション"),
    (0x3348, "ミクロン"), (0x3349, "ミリ"), (0x334a, "ミリバール"), (0x334b, "メガ"), (0x334c, "メガトン"),
    (0x334d, "メートル"), (0x334e, "ヤード"), (0x334f, "ヤール"), (0x3350, "ユアン"), (0x3351, "リットル"),
    (0x3352, "リラ"), (0x3353, "ルピー"), (0x3354, "ルーブル"), (0x3355, "レム"), (0x3356, "レントゲン"),
    (0x3357, "ワット"), (0x3358, "0点"), (0x3359, "1点"), (0x335a, "2点"), (0x335b, "3点"),
    (0x335c, "4点"), (0x335d, "5点"), (0x335e, "6点"), (0x335f, "7点"), (0x3360, "8点"), (0x3361, "9点"),
    (0x3362, "10点"), (0x3363, "11点"), (0x3364, "12点"), (0x3365, "13点"), (0x3366, "14点"),
    (0x3367, "15点"), (0x3368, "16点"), (0x3369, "17点"), (0x336a, "18点"), (0x336b, "19点"),
    (0x336c, "20点"), (0x336d, "21点"), (0x336e, "22点"), (0x336f, "23点"), (0x3370, "24点"),
    (0x3371, "hPa"), (0x3372, "da"), (0x3373, "AU"), (0x3374, "bar"), (0x3375, "oV"),
    (0x3376, "pc"), (0x3377, "dm"), (0x3378, "dm2"), (0x3379, "dm3"), (0x337a, "IU"),
    (0x337b, "平成"), (0x337c, "昭和"), (0x337d, "大正"), (0x337e, "明治"), (0x337f, "株式会社"),
    (0x3380, "pA"), (0x3381, "nA"), (0x3382, "\u03bcA"), (0x3383, "mA"), (0x3384, "kA"),
    (0x3385, "KB"), (0x3386, "MB"), (0x3387, "GB"), (0x3388, "cal"), (0x3389, "kcal"),
    (0x338a, "pF"), (0x338b, "nF"), (0x338c, "\u03bcF"), (0x338d, "\u03bcg"), (0x338e, "mg"),
    (0x338f, "kg"), (0x3390, "Hz"), (0x3391, "kHz"), (0x3392, "MHz"), (0x3393, "GHz"),
    (0x3394, "THz"), (0x3395, "\u03bcl"), (0x3396, "ml"), (0x3397, "dl"), (0x3398, "kl"),
    (0x3399, "fm"), (0x339a, "nm"), (0x339b, "\u03bcm"), (0x339c, "mm"), (0x339d, "cm"),
    (0x339e, "km"), (0x339f, "mm2"), (0x33a0, "cm2"), (0x33a1, "m2"), (0x33a2, "km2"),
    (0x33a3, "mm3"), (0x33a4, "cm3"), (0x33a5, "m3"), (0x33a6, "km3"), (0x33a7, "m\u2215s"),
    (0x33a8, "m\u2215s2"), (0x33a9, "Pa"), (0x33aa, "kPa"), (0x33ab, "MPa"), (0x33ac, "GPa"),
    (0x33ad, "rad"), (0x33ae, "rad\u2215s"), (0x33af, "rad\u2215s2"), (0x33b0, "ps"),
    (0x33b1, "ns"), (0x33b2, "\u03bcs"), (0x33b3, "ms"), (0x33b4, "pV"), (0x33b5, "nV"),
    (0x33b6, "\u03bcV"), (0x33b7, "mV"), (0x33b8, "kV"), (0x33b9, "MV"), (0x33ba, "pW"),
    (0x33bb, "nW"), (0x33bc, "\u03bcW"), (0x33bd, "mW"), (0x33be, "kW"), (0x33bf, "MW"),
    (0x33c0, "k\u03a9"), (0x33c1, "M\u03a9"), (0x33c2, "a.m."), (0x33c3, "Bq"), (0x33c4, "cc"),
    (0x33c5, "cd"), (0x33c6, "C\u2215kg"), (0x33c7, "Co."), (0x33c8, "dB"), (0x33c9, "Gy"),
    (0x33ca, "ha"), (0x33cb, "HP"), (0x33cc, "in"), (0x33cd, "KK"), (0x33ce, "KM"), (0x33cf, "kt"),
    (0x33d0, "lm"), (0x33d1, "ln"), (0x33d2, "log"), (0x33d3, "lx"), (0x33d4, "mb"),
    (0x33d5, "mil"), (0x33d6, "mol"), (0x33d7, "PH"), (0x33d8, "p.m."), (0x33d9, "PPM"),
    (0x33da, "PR"), (0x33db, "sr"), (0x33dc, "Sv"), (0x33dd, "Wb"), (0x33de, "V\u2215m"),
    (0x33df, "A\u2215m"), (0x33e0, "1日"), (0x33e1, "2日"), (0x33e2, "3日"), (0x33e3, "4日"),
    (0x33e4, "5日"), (0x33e5, "6日"), (0x33e6, "7日"), (0x33e7, "8日"), (0x33e8, "9日"),
    (0x33e9, "10日"), (0x33ea, "11日"), (0x33eb, "12日"), (0x33ec, "13日"), (0x33ed, "14日"),
    (0x33ee, "15日"), (0x33ef, "16日"), (0x33f0, "17日"), (0x33f1, "18日"), (0x33f2, "19日"),
    (0x33f3, "20日"), (0x33f4, "21日"), (0x33f5, "22日"), (0x33f6, "23日"), (0x33f7, "24日"),
    (0x33f8, "25日"), (0x33f9, "26日"), (0x33fa, "27日"), (0x33fb, "28日"), (0x33fc, "29日"),
    (0x33fd, "30日"), (0x33fe, "31日"), (0x33ff, "gal")]

/-- Presentation forms that are replaced with several characters. -/
def formSpellings : List (Nat × String) := [
    (0xfb00, "ff"), (0xfb01, "fi"), (0xfb02, "fl"), (0xfb03, "ffi"), (0xfb04, "ffl"),
    (0xfb05, "st"), (0xfb06, "st"), (0xfb13, "\u0574\u0576"), (0xfb14, "\u0574\u0565"),
    (0xfb15, "\u0574\u056b"), (0xfb16, "\u057e\u0576"), (0xfb17, "\u0574\u056d"),
    (0xfb1d, "\u05d9\u05b4"), (0xfb1f, "\u05f2\u05b7"), (0xfb2a, "\u05e9\u05c1"),
    (0xfb2b, "\u05e9\u05c2"), (0xfb2c, "\u05e9\u05bc\u05c1"), (0xfb2d, "\u05e9\u05bc\u05c2"),
    (0xfb2e, "\u05d0\u05b7"), (0xfb2f, "\u05d0\u05b8"), (0xfb30, "\u05d0\u05bc"),
    (0xfb31, "\u05d1\u05bc"), (0xfb32, "\u05d2\u05bc"), (0xfb33, "\u05d3\u05bc"),
    (0xfb34, "\u05d4\u05bc"), (0xfb35, "\u05d5\u05bc"), (0xfb36, "\u05d6\u05bc"),
    (0xfb38, "\u05d8\u05bc"), (0xfb39, "\u05d9\u05bc"), (0xfb3a, "\u05da\u05bc"),
    (0xfb3b, "\u05db\u05bc"), (0xfb3c, "\u05dc\u05bc"), (0xfb3e, "\u05de\u05bc"),
    (0xfb40, "\u05e0\u05bc"), (0xfb41, "\u05e1\u05bc"), (0xfb43, "\u05e3\u05bc"),
    (0xfb44, "\u05e4\u05bc"), (0xfb46, "\u05e6\u05bc"), (0xfb47, "\u05e7\u05bc"),
    (0xfb48, "\u05e8\u05bc"), (0xfb49, "\u05e9\u05bc"), (0xfb4a, "\u05ea\u05bc"),
    (0xfb4b, "\u05d5\u05b9"), (0xfb4c, "\u05d1\u05bf"), (0xfb4d, "\u05db\u05bf"),
    (0xfb4e, "\u05e4\u05bf"), (0xfb4f, "\u05d0\u05dc"), (0xfbdd, "\u06c7\u0674"),
    (0xfbea, "\u0626\u0627"), (0xfbeb, "\u0626\u0627"), (0xfbec, "\u0626\u06d5"),
    (0xfbed, "\u0626\u06d5"), (0xfbee, "\u0626\u0648"), (0xfbef, "\u0626\u0648"),
    (0xfbf0, "\u0626\u06c7"), (0xfbf1, "\u0626\u06c7"), (0xfbf2, "\u0626\u06c6"),
    (0xfbf3, "\u0626\u06c6"), (0xfbf4, "\u0626\u06c8"), (0xfbf5, "\u0626\u06c8"),
    (0xfbf6, "\u0626\u06d0"), (0xfbf7, "\u0626\u06d0"), (0xfbf8, "\u0626\u06d0"),
    (0xfbf9, "\u0626\u0649"), (0xfbfa, "\u0626\u0649"), (0xfbfb, "\u0626\u0649"),
    (0xfc00, "\u0626\u062c"), (0xfc01, "\u0626\u062d"), (0xfc02, "\u0626\u0645"),
    (0xfc03, "\u0626\u0649"), (0xfc04, "\u0626\u064a"), (0xfc05, "\u0628\u062c"),
    (0xfc06, "\u0628\u062d"), (0xfc07, "\u0628\u062e"), (0xfc08, "\u0628\u0645"),
    (0xfc09, "\u0628\u0649"), (0xfc0a, "\u0628\u064a"), (0xfc0b, "\u062a\u062c"),
    (0xfc0c, "\u062a\u062d"), (0xfc0d, "\u062a\u062e"), (0xfc0e, "\u062a\u0645"),
    (0xfc0f, "\u062a\u0649"), (0xfc10, "\u062a\u064a"), (0xfc11, "\u062b\u062c"),
    (0xfc12, "\u062b\u0645"), (0xfc13, "\u062b\u0649"), (0xfc14, "\u062b\u064a"),
    (0xfc15, "\u062c\u062d"), (0xfc16, "\u062c\u0645"), (0xfc17, "\u062d\u062c"),
    (0xfc18, "\u062d\u0645"), (0xfc19, "\u062e\u062c"), (0xfc1a, "\u062e\u062d"),
    (0xfc1b, "\u062e\u0645"), (0xfc1c, "\u0633\u062c"), (0xfc1d, "\u0633\u062d"),
    (0xfc1e, "\u0633\u062e"), (0xfc1f, "\u0633\u0645"), (0xfc20, "\u0635\u062d"),
    (0xfc21, "\u0635\u0645"), (0xfc22, "\u0636\u062c"), (0xfc23, "\u0636\u062d"),
    (0xfc24, "\u0636\u062e"), (0xfc25, "\u0636\u0645"), (0xfc26, "\u0637\u062d"),
    (0xfc27, "\u0637\u0645"), (0xfc28, "\u0638\u0645"), (0xfc29, "\u0639\u062c"),
    (0xfc2a, "\u0639\u0645"), (0xfc2b, "\u063a\u062c"), (0xfc2c, "\u063a\u0645"),
    (0xfc2d, "\u0641\u062c"), (0xfc2e, "\u0641\u062d"), (0xfc2f, "\u0641\u062e"),
    (0xfc30, "\u0641\u0645"), (0xfc31, "\u0641\u0649"), (0xfc32, "\u0641\u064a"),
    (0xfc33, "\u0642\u062d"), (0xfc34, "\u0642\u0645"), (0xfc35, "\u0642\u0649"),
    (0xfc36, "\u0642\u064a"), (0xfc37, "\u0643\u0627"), (0xfc38, "\u0643\u062c"),
    (0xfc39, "\u0643\u062d"), (0xfc3a, "\u0643\u062e"), (0xfc3b, "\u0643\u0644"),
    (0xfc3c, "\u0643\u0645"), (0xfc3d, "\u0643\u0649"), (0xfc3e, "\u0643\u064a"),
    (0xfc3f, "\u0644\u062c"), (0xfc40, "\u0644\u062d"), (0xfc41, "\u0644\u062e"),
    (0xfc42, "\u0644\u0645"), (0xfc43, "\u0644\u0649"), (0xfc44, "\u0644\u064a"),
    (0xfc45, "\u0645\u062c"), (0xfc46, "\u0645\u062d"), (0xfc47, "\u0645\u062e"),
    (0xfc48, "\u0645\u0645"), (0xfc49, "\u0645\u0649"), (0xfc4a, "\u0645\u064a"),
    (0xfc4b, "\u0646\u062c"), (0xfc4c, "\u0646\u062d"), (0xfc4d, "\u0646\u062e"),
    (0xfc4e, "\u0646\u0645"), (0xfc4f, "\u0646\u0649"), (0xfc50, "\u0646\u064a"),
    (0xfc51, "\u0647\u062c"), (0xfc52, "\u0647\u0645"), (0xfc53, "\u0647\u0649"),
    (0xfc54, "\u0647\u064a"), (0xfc55, "\u064a\u062c"), (0xfc56, "\u064a\u062d"),
    (0xfc57, "\u064a\u062e"), (0xfc58, "\u064a\u0645"), (0xfc59, "\u064a\u0649"),
    (0xfc5a, "\u064a\u064a"), (0xfc5b, "\u0630\u0670"), (0xfc5c, "\u0631\u0670"),
    (0xfc5d, "\u0649\u0670"), (0xfc5e, " \u064c\u0651"), (0xfc5f, " \u064d\u0651"),
    (0xfc60, " \u064e\u0651"), (0xfc61, " \u064f\u0651"), (0xfc62, " \u0650\u0651"),
    (0xfc63, " \u0651\u0670"), (0xfc64, "\u0626\u0631"), (0xfc65, "\u0626\u0632"),
    (0xfc66, "\u0626\u0645"), (0xfc67, "\u0626\u0646"), (0xfc68, "\u0626\u0649"),
    (0xfc69, "\u0626\u064a"), (0xfc6a, "\u0628\u0631"), (0xfc6b, "\u0628\u0632"),
    (0xfc6c, "\u0628\u0645"), (0xfc6d, "\u0628\u0646"), (0xfc6e, "\u0628\u0649"),
    (0xfc6f, "\u0628\u064a"), (0xfc70, "\u062a\u0631"), (0xfc71, "\u062a\u0632"),
    (0xfc72, "\u062a\u0645"), (0xfc73, "\u062a\u0646"), (0xfc74, "\u062a\u0649"),
    (0xfc75, "\u062a\u064a"), (0xfc76, "\u062b\u0631"), (0xfc77, "\u062b\u0632"),
    (0xfc78, "\u062b\u0645"), (0xfc79, "\u062b\u0646"), (0xfc7a, "\u062b\u0649"),
    (0xfc7b, "\u062b\u064a"), (0xfc7c, "\u0641\u0649"), (0xfc7d, "\u0641\u064a"),
    (0xfc7e, "\u0642\u0649"), (0xfc7f, "\u0642\u064a"), (0xfc80, "\u0643\u0627"),
    (0xfc81, "\u0643\u0644"), (0xfc82, "\u0643\u0645"), (0xfc83, "\u0643\u0649"),
    (0xfc84, "\u0643\u064a"), (0xfc85, "\u0644\u0645"), (0xfc86, "\u0644\u0649"),
    (0xfc87, "\u0644\u064a"), (0xfc88, "\u0645\u0627"), (0xfc89, "\u0645\u0645"),
    (0xfc8a, "\u0646\u0631"), (0xfc8b, "\u0646\u0632"), (0xfc8c, "\u0646\u0645"),
    (0xfc8d, "\u0646\u0646"), (0xfc8e, "\u0646\u0649"), (0xfc8f, "\u0646\u064a"),
    (0xfc90, "\u0649\u0670"), (0xfc91, "\u064a\u0631"), (0xfc92, "\u064a\u0632"),
    (0xfc93, "\u064a\u0645"), (0xfc94, "\u064a\u0646"), (0xfc95, "\u064a\u0649"),
    (0xfc96, "\u064a\u064a"), (0xfc97, "\u0626\u062c"), (0xfc98, "\u0626\u062d"),
    (0xfc99, "\u0626\u062e"), (0xfc9a, "\u0626\u0645"), (0xfc9b, "\u0626\u0647"),
    (0xfc9c, "\u0628\u062c"), (0xfc9d, "\u0628\u062d"), (0xfc9e, "\u0628\u062e"),
    (0xfc9f, "\u0628\u0645"), (0xfca0, "\u0628\u0647"), (0xfca1, "\u062a\u062c"),
    (0xfca2, "\u062a\u062d"), (0xfca3, "\u062a\u062e"), (0xfca4, "\u062a\u0645"),
    (0xfca5, "\u062a\u0647"), (0xfca6, "\u062b\u0645"), (0xfca7, "\u062c\u062d"),
    (0xfca8, "\u062c\u0645"), (0xfca9, "\u062d\u062c"), (0xfcaa, "\u062d\u0645"),
    (0xfcab, "\u062e\u062c"), (0xfcac, "\u062e\u0645"), (0xfcad, "\u0633\u062c"),
    (0xfcae, "\u0633\u062d"), (0xfcaf, "\u0633\u062e"), (0xfcb0, "\u0633\u0645"),
    (0xfcb1, "\u0635\u062d"), (0xfcb2, "\u0635\u062e"), (0xfcb3, "\u0635\u0645"),
    (0xfcb4, "\u0636\u062c"), (0xfcb5, "\u0636\u062d"), (0xfcb6, "\u0636\u062e"),
    (0xfcb7, "\u0636\u0645"), (0xfcb8, "\u0637\u062d"), (0xfcb9, "\u0638\u0645"),
    (0xfcba, "\u0639\u062c"), (0xfcbb, "\u0639\u0645"), (0xfcbc, "\u063a\u062c"),
    (0xfcbd, "\u063a\u0645"), (0xfcbe, "\u0641\u062c"), (0xfcbf, "\u0641\u062d"),
    (0xfcc0, "\u0641\u062e"), (0xfcc1, "\u0641\u0645"), (0xfcc2, "\u0642\u062d"),
    (0xfcc3, "\u0642\u0645"), (0xfcc4, "\u0643\u062c"), (0xfcc5, "\u0643\u062d"),
    (0xfcc6, "\u0643\u062e"), (0xfcc7, "\u0643\u0644"), (0xfcc8, "\u0643\u0645"),
    (0xfcc9, "\u0644\u062c"), (0xfcca, "\u0644\u062d"), (0xfccb, "\u0644\u062e"),
    (0xfccc, "\u0644\u0645"), (0xfccd, "\u0644\u0647"), (0xfcce, "\u0645\u062c"),
    (0xfccf, "\u0645\u062d"), (0xfcd0, "\u0645\u062e"), (0xfcd1, "\u0645\u0645"),
    (0xfcd2, "\u0646\u062c"), (0xfcd3, "\u0646\u062d"), (0xfcd4, "\u0646\u062e"),
    (0xfcd5, "\u0646\u0645"), (0xfcd6, "\u0646\u0647"), (0xfcd7, "\u0647\u062c"),
    (0xfcd8, "\u0647\u0645"), (0xfcd9, "\u0647\u0670"), (0xfcda, "\u064a\u062c"),
    (0xfcdb, "\u064a\u062d"), (0xfcdc, "\u064a\u062e"), (0xfcdd, "\u064a\u0645"),
    (0xfcde, "\u064a\u0647"), (0xfcdf, "\u0626\u0645"), (0xfce0, "\u0626\u0647"),
    (0xfce1, "\u0628\u0645"), (0xfce2, "\u0628\u0647"), (0xfce3, "\u062a\u0645"),
    (0xfce4, "\u062a\u0647"), (0xfce5, "\u062b\u0645"), (0xfce6, "\u062b\u0647"),
    (0xfce7, "\u0633\u0645"), (0xfce8, "\u0633\u0647"), (0xfce9, "\u0634\u0645"),
    (0xfcea, "\u0634\u0647"), (0xfceb, "\u0643\u0644"), (0xfcec, "\u0643\u0645"),
    (0xfced, "\u0644\u0645"), (0xfcee, "\u0646\u0645"), (0xfcef, "\u0646\u0647"),
    (0xfcf0, "\u064a\u0645"), (0xfcf1, "\u064a\u0647"), (0xfcf2, "\u0640\u064e\u0651"),
    (0xfcf3, "\u0640\u064f\u0651"), (0xfcf4, "\u0640\u0650\u0651"), (0xfcf5, "\u0637\u0649"),
    (0xfcf6, "\u0637\u064a"), (0xfcf7, "\u0639\u0649"), (0xfcf8, "\u0639\u064a"),
    (0xfcf9, "\u063a\u0649"), (0xfcfa, "\u063a\u064a"), (0xfcfb, "\u0633\u0649"),
    (0xfcfc, "\u0633\u064a"), (0xfcfd, "\u0634\u0649"), (0xfcfe, "\u0634\u064a"),
    (0xfcff, "\u062d\u0649"), (0xfd00, "\u062d\u064a"), (0xfd01, "\u062c\u0649"),
    (0xfd02, "\u062c\u064a"), (0xfd03, "\u062e\u0649"), (0xfd04, "\u062e\u064a"),
    (0xfd05, "\u0635\u0649"), (0xfd06, "\u0635\u064a"), (0xfd07, "\u0636\u0649"),
    (0xfd08, "\u0636\u064a"), (0xfd09, "\u0634\u062c"), (0xfd0a, "\u0634\u062d"),
    (0xfd0b, "\u0634\u062e"), (0xfd0c, "\u0634\u0645"), (0xfd0d, "\u0634\u0631"),
    (0xfd0e, "\u0633\u0631"), (0xfd0f, "\u0635\u0631"), (0xfd10, "\u0636\u0631"),
    (0xfd11, "\u0637\u0649"), (0xfd12, "\u0637\u064a"), (0xfd13, "\u0639\u0649"),
    (0xfd14, "\u0639\u064a"), (0xfd15, "\u063a\u0649"), (0xfd16, "\u063a\u064a"),
    (0xfd17, "\u0633\u0649"), (0xfd18, "\u0633\u064a"), (0xfd19, "\u0634\u0649"),
    (0xfd1a, "\u0634\u064a"), (0xfd1b, "\u062d\u0649"), (0xfd1c, "\u062d\u064a"),
    (0xfd1d, "\u062c\u0649"), (0xfd1e, "\u062c\u064a"), (0xfd1f, "\u062e\u0649"),
    (0xfd20, "\u062e\u064a"), (0xfd21, "\u0635\u0649"), (0xfd22, "\u0635\u064a"),
    (0xfd23, "\u0636\u0649"), (0xfd24, "\u0636\u064a"), (0xfd25, "\u0634\u062c"),
    (0xfd26, "\u0634\u062d"), (0xfd27, "\u0634\u062e"), (0xfd28, "\u0634\u0645"),
    (0xfd29, "\u0634\u0631"), (0xfd2a, "\u0633\u0631"), (0xfd2b, "\u0635\u0631"),
    (0xfd2c, "\u0636\u0631"), (0xfd2d, "\u0634\u062c"), (0xfd2e, "\u0634\u062d"),
    (0xfd2f, "\u0634\u062e"), (0xfd30, "\u0634\u0645"), (0xfd31, "\u0633\u0647"),
    (0xfd32, "\u0634\u0647"), (0xfd33, "\u0637\u0645"), (0xfd34, "\u0633\u062c"),
    (0xfd35, "\u0633\u062d"), (0xfd36, "\u0633\u062e"), (0xfd37, "\u0634\u062c"),
    (0xfd38, "\u0634\u062d"), (0xfd39, "\u0634\u062e"), (0xfd3a, "\u0637\u0645"),
    (0xfd3b, "\u0638\u0645"), (0xfd3c, "\u0627\u064b"), (0xfd3d, "\u0627\u064b"),
    (0xfd50, "\u062a\u062c\u0645"), (0xfd51, "\u062a\u062d\u062c"), (0xfd52, "\u062a\u062d\u062c"),
    (0xfd53, "\u062a\u062d\u0645"), (0xfd54, "\u062a\u062e\u0645"), (0xfd55, "\u062a\u0645\u062c"),
    (0xfd56, "\u062a\u0645\u062d"), (0xfd57, "\u062a\u0645\u062e"), (0xfd58, "\u062c\u0645\u062d"),
    (0xfd59, "\u062c\u0645\u062d"), (0xfd5a, "\u062d\u0645\u064a"), (0xfd5b, "\u062d\u0645\u0649"),
    (0xfd5c, "\u0633\u062d\u062c"), (0xfd5d, "\u0633\u062c\u062d"), (0xfd5e, "\u0633\u062c\u0649"),
    (0xfd5f, "\u0633\u0645\u062d"), (0xfd60, "\u0633\u0645\u062d"), (0xfd61, "\u0633\u0645\u062c"),
    (0xfd62, "\u0633\u0645\u0645"), (0xfd63, "\u0633\u0645\u0645"), (0xfd64, "\u0635\u062d\u062d"),
    (0xfd65, "\u0635\u062d\u062d"), (0xfd66, "\u0635\u0645\u0645"), (0xfd67, "\u0634\u062d\u0645"),
    (0xfd68, "\u0634\u062d\u0645"), (0xfd69, "\u0634\u062c\u064a"), (0xfd6a, "\u0634\u0645\u062e"),
    (0xfd6b, "\u0634\u0645\u062e"), (0xfd6c, "\u0634\u0645\u0645"), (0xfd6d, "\u0634\u0645\u0645"),
    (0xfd6e, "\u0636\u062d\u0649"), (0xfd6f, "\u0636\u062e\u0645"), (0xfd70, "\u0636\u062e\u0645"),
    (0xfd71, "\u0637\u0645\u062d"), (0xfd72, "\u0637\u0645\u062d"), (0xfd73, "\u0637\u0645\u0645"),
    (0xfd74, "\u0637\u0645\u064a"), (0xfd75, "\u0639\u062c\u0645"), (0xfd76, "\u0639\u0645\u0645"),
    (0xfd77, "\u0639\u0645\u0645"), (0xfd78, "\u0639\u0645\u0649"), (0xfd79, "\u063a\u0645\u0645"),
    (0xfd7a, "\u063a\u0645\u064a"), (0xfd7b, "\u063a\u0645\u0649"), (0xfd7c, "\u0641\u062e\u0645"),
    (0xfd7d, "\u0641\u062e\u0645"), (0xfd7e, "\u0642\u0645\u062d"), (0xfd7f, "\u0642\u0645\u0645"),
    (0xfd80, "\u0644\u062d\u0645"), (0xfd81, "\u0644\u062d\u064a"), (0xfd82, "\u0644\u062d\u0649"),
    (0xfd83, "\u0644\u062c\u062c"), (0xfd84, "\u0644\u062c\u062c"), (0xfd85, "\u0644\u062e\u0645"),
    (0xfd86, "\u0644\u062e\u0645"), (0xfd87, "\u0644\u0645\u062d"), (0xfd88, "\u0644\u0645\u062d"),
    (0xfd89, "\u0645\u062d\u062c"), (0xfd8a, "\u0645\u062d\u0645"), (0xfd8b, "\u0645\u062d\u064a"),
    (0xfd8c, "\u0645\u062c\u062d"), (0xfd8d, "\u0645\u062c\u0645"), (0xfd8e, "\u0645\u062e\u062c"),
    (0xfd8f, "\u0645\u062e\u0645"), (0xfd92, "\u0645\u062c\u062e"), (0xfd93, "\u0647\u0645\u062c"),
    (0xfd94, "\u0647\u0645\u0645"), (0xfd95, "\u0646\u062d\u0645"), (0xfd96, "\u0646\u062d\u0649"),
    (0xfd97, "\u0646\u062c\u0645"), (0xfd98, "\u0646\u062c\u0645"), (0xfd99, "\u0646\u062c\u0649"),
    (0xfd9a, "\u0646\u0645\u064a"), (0xfd9b, "\u0646\u0645\u0649"), (0xfd9c, "\u064a\u0645\u0645"),
    (0xfd9d, "\u064a\u0645\u0645"), (0xfd9e, "\u0628\u062e\u064a"), (0xfd9f, "\u062a\u062c\u064a"),
    (0xfda0, "\u062a\u062c\u0649"), (0xfda1, "\u062a\u062e\u064a"), (0xfda2, "\u062a\u062e\u0649"),
    (0xfda3, "\u062a\u0645\u064a"), (0xfda4, "\u062a\u0645\u0649"), (0xfda5, "\u062c\u0645\u064a"),
    (0xfda6, "\u062c\u062d\u0649"), (0xfda7, "\u062c\u0645\u0649"), (0xfda8, "\u0633\u062e\u0649"),
    (0xfda9, "\u0635\u062d\u064a"), (0xfdaa, "\u0634\u062d\u064a"), (0xfdab, "\u0636\u062d\u064a"),
    (0xfdac, "\u0644\u062c\u064a"), (0xfdad, "\u0644\u0645\u064a"), (0xfdae, "\u064a\u062d\u064a"),
    (0xfdaf, "\u064a\u062c\u064a"), (0xfdb0, "\u064a\u0645\u064a"), (0xfdb1, "\u0645\u0645\u064a"),
    (0xfdb2, "\u0642\u0645\u064a"), (0xfdb3, "\u0646\u062d\u064a"), (0xfdb4, "\u0642\u0645\u062d"),
    (0xfdb5, "\u0644\u062d\u0645"), (0xfdb6, "\u0639\u0645\u064a"), (0xfdb7, "\u0643\u0645\u064a"),
    (0xfdb8, "\u0646\u062c\u062d"), (0xfdb9, "\u0645\u062e\u064a"), (0xfdba, "\u0644\u062c\u0645"),
    (0xfdbb, "\u0643\u0645\u0645"), (0xfdbc, "\u0644\u062c\u0645"), (0xfdbd, "\u0646\u062c\u062d"),
    (0xfdbe, "\u062c\u062d\u064a"), (0xfdbf, "\u062d\u062c\u064a"), (0xfdc0, "\u0645\u062c\u064a"),
    (0xfdc1, "\u0641\u0645\u064a"), (0xfdc2, "\u0628\u062d\u064a"), (0xfdc3, "\u0643\u0645\u0645"),
    (0xfdc4, "\u0639\u062c\u0645"), (0xfdc5, "\u0635\u0645\u0645"), (0xfdc6, "\u0633\u062e\u064a"),
    (0xfdc7, "\u0646\u062c\u064a"), (0xfdf0, "\u0635\u0644\u06d2"), (0xfdf1, "\u0642\u0644\u06d2"),
    (0xfdf2, "\u0627\u0644\u0644\u0647"), (0xfdf3, "\u0627\u0643\u0628\u0631"),
    (0xfdf4, "\u0645\u062d\u0645\u062f"), (0xfdf5, "\u0635\u0644\u0639\u0645"),
    (0xfdf6, "\u0631\u0633\u0648\u0644"), (0xfdf7, "\u0639\u0644\u064a\u0647"),
    (0xfdf8, "\u0648\u0633\u0644\u0645"), (0xfdf9, "\u0635\u0644\u0649"),
    (0xfdfa, "صلى\x20الله\x20عليه\x20وسلم"),
    (0xfdfb, "\u062c\u0644 \u062c\u0644\u0627\u0644\u0647"), (0xfdfc, "\u0631\u06cc\u0627\u0644"),
    (0xfe19, "..."), (0xfe30, ".."), (0xfe49, " \u0305"), (0xfe4a, " \u0305"), (0xfe4b, " \u0305"),
    (0xfe4c, " \u0305"), (0xfe70, " \u064b"), (0xfe71, "\u0640\u064b"), (0xfe72, " \u064c"),
    (0xfe74, " \u064d"), (0xfe76, " \u064e"), (0xfe77, "\u0640\u064e"), (0xfe78, " \u064f"),
    (0xfe79, "\u0640\u064f"), (0xfe7a, " \u0650"), (0xfe7b, "\u0640\u0650"), (0xfe7c, " \u0651"),
    (0xfe7d, "\u0640\u0651"), (0xfe7e, " \u0652"), (0xfe7f, "\u0640\u0652"),
    (0xfef5, "\u0644\u0622"), (0xfef6, "\u0644\u0622"), (0xfef7, "\u0644\u0623"),
    (0xfef8, "\u0644\u0623"), (0xfef9, "\u0644\u0625"), (0xfefa, "\u0644\u0625"),
    (0xfefb, "\u0644\u0627"), (0xfefc, "\u0644\u0627"), (0xffe3, " \u0304"), (0x1d15e, "𝅗𝅥"),
    (0x1d15f, "𝅘𝅥"), (0x1d160, "𝅘𝅥𝅮"), (0x1d161, "𝅘𝅥𝅯"), (0x1d162, "𝅘𝅥𝅰"), (0x1d163, "𝅘𝅥𝅱"),
    (0x1d164, "𝅘𝅥𝅲"), (0x1d1bb, "𝆹𝅥"), (0x1d1bc, "𝆺𝅥"), (0x1d1bd, "𝆹𝅥𝅮"), (0x1d1be, "𝆺𝅥𝅮"),
    (0x1d1bf, "𝆹𝅥𝅯"), (0x1d1c0, "𝆺𝅥𝅯"), (0x1f100, "0."), (0x1f101, "0,"), (0x1f102, "1,"),
    (0x1f103, "2,"), (0x1f104, "3,"), (0x1f105, "4,"), (0x1f106, "5,"), (0x1f107, "6,"),
    (0x1f108, "7,"), (0x1f109, "8,"), (0x1f10a, "9,"), (0x1f110, "(A)"), (0x1f111, "(B)"),
    (0x1f112, "(C)"), (0x1f113, "(D)"), (0x1f114, "(E)"), (0x1f115, "(F)"), (0x1f116, "(G)"),
    (0x1f117, "(H)"), (0x1f118, "(I)"), (0x1f119, "(J)"), (0x1f11a, "(K)"), (0x1f11b, "(L)"),
    (0x1f11c, "(M)"), (0x1f11d, "(N)"), (0x1f11e, "(O)"), (0x1f11f, "(P)"), (0x1f120, "(Q)"),
    (0x1f121, "(R)"), (0x1f122, "(S)"), (0x1f123, "(T)"), (0x1f124, "(U)"), (0x1f125, "(V)"),
    (0x1f126, "(W)"), (0x1f127, "(X)"), (0x1f128, "(Y)"), (0x1f129, "(Z)"),
    (0x1f12a, "\u3014S\u3015"), (0x1f12d, "CD"), (0x1f12e, "WZ"), (0x1f14a, "HV"), (0x1f14b, "MV"),
    (0x1f14c, "SD"), (0x1f14d, "SS"), (0x1f14e, "PPV"), (0x1f14f, "WC"), (0x1f16a, "MC"),
    (0x1f16b, "MD"), (0x1f16c, "MR"), (0x1f190, "DJ"), (0x1f200, "ほか"), (0x1f201, "ココ"),
    (0x1f240, "\u3014本\u3015"), (0x1f241, "\u3014三\u3015"), (0x1f242, "\u3014二\u3015"),
    (0x1f243, "\u3014安\u3015"), (0x1f244, "\u3014点\u3015"), (0x1f245, "\u3014打\u3015"),
    (0x1f246, "\u3014盗\u3015"), (0x1f247, "\u3014勝\u3015"), (0x1f248, "\u3014敗\u3015")]

end ShaderVariants.Text.NormalForm
