import OAuthClient.Uri.Label.Mark

/-!
# Composed form

A label stands in composed form: a letter and a mark for which there is one code point are that code point, and marks stand in
the order of their combining classes. The form is got by taking all letters apart, ordering the marks, and putting together what
goes together.
-/

namespace OAuthClient.Uri.Label

/-- A letter, a mark, and what they make together. -/
def compositions : List (Nat × Nat × Nat) :=
  [(0x61, 0x300, 0xe0), (0x61, 0x301, 0xe1), (0x61, 0x302, 0xe2), (0x61, 0x303, 0xe3), (0x61, 0x308, 0xe4),
   (0x61, 0x30a, 0xe5), (0x63, 0x327, 0xe7), (0x65, 0x300, 0xe8), (0x65, 0x301, 0xe9), (0x65, 0x302, 0xea),
   (0x65, 0x308, 0xeb), (0x69, 0x300, 0xec), (0x69, 0x301, 0xed), (0x69, 0x302, 0xee), (0x69, 0x308, 0xef),
   (0x6e, 0x303, 0xf1), (0x6f, 0x300, 0xf2), (0x6f, 0x301, 0xf3), (0x6f, 0x302, 0xf4), (0x6f, 0x303, 0xf5),
   (0x6f, 0x308, 0xf6), (0x75, 0x300, 0xf9), (0x75, 0x301, 0xfa), (0x75, 0x302, 0xfb), (0x75, 0x308, 0xfc),
   (0x79, 0x301, 0xfd), (0x79, 0x308, 0xff), (0x61, 0x304, 0x101), (0x61, 0x306, 0x103), (0x61, 0x328, 0x105),
   (0x63, 0x301, 0x107), (0x63, 0x302, 0x109), (0x63, 0x307, 0x10b), (0x63, 0x30c, 0x10d), (0x64, 0x30c, 0x10f),
   (0x65, 0x304, 0x113), (0x65, 0x306, 0x115), (0x65, 0x307, 0x117), (0x65, 0x328, 0x119), (0x65, 0x30c, 0x11b),
   (0x67, 0x302, 0x11d), (0x67, 0x306, 0x11f), (0x67, 0x307, 0x121), (0x67, 0x327, 0x123), (0x68, 0x302, 0x125),
   (0x69, 0x303, 0x129), (0x69, 0x304, 0x12b), (0x69, 0x306, 0x12d), (0x69, 0x328, 0x12f), (0x6a, 0x302, 0x135),
   (0x6b, 0x327, 0x137), (0x6c, 0x301, 0x13a), (0x6c, 0x327, 0x13c), (0x6c, 0x30c, 0x13e), (0x6e, 0x301, 0x144),
   (0x6e, 0x327, 0x146), (0x6e, 0x30c, 0x148), (0x6f, 0x304, 0x14d), (0x6f, 0x306, 0x14f), (0x6f, 0x30b, 0x151),
   (0x72, 0x301, 0x155), (0x72, 0x327, 0x157), (0x72, 0x30c, 0x159), (0x73, 0x301, 0x15b), (0x73, 0x302, 0x15d),
   (0x73, 0x327, 0x15f), (0x73, 0x30c, 0x161), (0x74, 0x327, 0x163), (0x74, 0x30c, 0x165), (0x75, 0x303, 0x169),
   (0x75, 0x304, 0x16b), (0x75, 0x306, 0x16d), (0x75, 0x30a, 0x16f), (0x75, 0x30b, 0x171), (0x75, 0x328, 0x173),
   (0x77, 0x302, 0x175), (0x79, 0x302, 0x177), (0x7a, 0x301, 0x17a), (0x7a, 0x307, 0x17c), (0x7a, 0x30c, 0x17e),
   (0x6f, 0x31b, 0x1a1), (0x75, 0x31b, 0x1b0), (0x61, 0x30c, 0x1ce), (0x69, 0x30c, 0x1d0), (0x6f, 0x30c, 0x1d2),
   (0x75, 0x30c, 0x1d4), (0xfc, 0x304, 0x1d6), (0xfc, 0x301, 0x1d8), (0xfc, 0x30c, 0x1da), (0xfc, 0x300, 0x1dc),
   (0xe4, 0x304, 0x1df), (0x227, 0x304, 0x1e1), (0xe6, 0x304, 0x1e3), (0x67, 0x30c, 0x1e7), (0x6b, 0x30c, 0x1e9),
   (0x6f, 0x328, 0x1eb), (0x1eb, 0x304, 0x1ed), (0x292, 0x30c, 0x1ef), (0x6a, 0x30c, 0x1f0), (0x67, 0x301, 0x1f5),
   (0x6e, 0x300, 0x1f9), (0xe5, 0x301, 0x1fb), (0xe6, 0x301, 0x1fd), (0xf8, 0x301, 0x1ff), (0x61, 0x30f, 0x201),
   (0x61, 0x311, 0x203), (0x65, 0x30f, 0x205), (0x65, 0x311, 0x207), (0x69, 0x30f, 0x209), (0x69, 0x311, 0x20b),
   (0x6f, 0x30f, 0x20d), (0x6f, 0x311, 0x20f), (0x72, 0x30f, 0x211), (0x72, 0x311, 0x213), (0x75, 0x30f, 0x215),
   (0x75, 0x311, 0x217), (0x73, 0x326, 0x219), (0x74, 0x326, 0x21b), (0x68, 0x30c, 0x21f), (0x61, 0x307, 0x227),
   (0x65, 0x327, 0x229), (0xf6, 0x304, 0x22b), (0xf5, 0x304, 0x22d), (0x6f, 0x307, 0x22f), (0x22f, 0x304, 0x231),
   (0x79, 0x304, 0x233), (0x3ca, 0x301, 0x390), (0x3b1, 0x301, 0x3ac), (0x3b5, 0x301, 0x3ad), (0x3b7, 0x301, 0x3ae),
   (0x3b9, 0x301, 0x3af), (0x3cb, 0x301, 0x3b0), (0x3b9, 0x308, 0x3ca), (0x3c5, 0x308, 0x3cb), (0x3bf, 0x301, 0x3cc),
   (0x3c5, 0x301, 0x3cd), (0x3c9, 0x301, 0x3ce), (0x438, 0x306, 0x439), (0x435, 0x300, 0x450), (0x435, 0x308, 0x451),
   (0x433, 0x301, 0x453), (0x456, 0x308, 0x457), (0x43a, 0x301, 0x45c), (0x438, 0x300, 0x45d), (0x443, 0x306, 0x45e),
   (0x475, 0x30f, 0x477), (0x436, 0x306, 0x4c2), (0x430, 0x306, 0x4d1), (0x430, 0x308, 0x4d3), (0x435, 0x306, 0x4d7),
   (0x4d9, 0x308, 0x4db), (0x436, 0x308, 0x4dd), (0x437, 0x308, 0x4df), (0x438, 0x304, 0x4e3), (0x438, 0x308, 0x4e5),
   (0x43e, 0x308, 0x4e7), (0x4e9, 0x308, 0x4eb), (0x44d, 0x308, 0x4ed), (0x443, 0x304, 0x4ef), (0x443, 0x308, 0x4f1),
   (0x443, 0x30b, 0x4f3), (0x447, 0x308, 0x4f5), (0x44b, 0x308, 0x4f9), (0x627, 0x653, 0x622), (0x627, 0x654, 0x623),
   (0x648, 0x654, 0x624), (0x627, 0x655, 0x625), (0x64a, 0x654, 0x626), (0x6d5, 0x654, 0x6c0), (0x6c1, 0x654, 0x6c2),
   (0x6d2, 0x654, 0x6d3), (0x928, 0x93c, 0x929), (0x930, 0x93c, 0x931), (0x933, 0x93c, 0x934), (0x9c7, 0x9be, 0x9cb),
   (0x9c7, 0x9d7, 0x9cc), (0xb47, 0xb56, 0xb48), (0xb47, 0xb3e, 0xb4b), (0xb47, 0xb57, 0xb4c), (0xb92, 0xbd7, 0xb94),
   (0xbc6, 0xbbe, 0xbca), (0xbc7, 0xbbe, 0xbcb), (0xbc6, 0xbd7, 0xbcc), (0xc46, 0xc56, 0xc48), (0xcbf, 0xcd5, 0xcc0),
   (0xcc6, 0xcd5, 0xcc7), (0xcc6, 0xcd6, 0xcc8), (0xcc6, 0xcc2, 0xcca), (0xcca, 0xcd5, 0xccb), (0xd46, 0xd3e, 0xd4a),
   (0xd47, 0xd3e, 0xd4b), (0xd46, 0xd57, 0xd4c), (0xdd9, 0xdca, 0xdda), (0xdd9, 0xdcf, 0xddc), (0xddc, 0xdca, 0xddd),
   (0xdd9, 0xddf, 0xdde), (0x1025, 0x102e, 0x1026), (0x1b05, 0x1b35, 0x1b06), (0x1b07, 0x1b35, 0x1b08),
   (0x1b09, 0x1b35, 0x1b0a), (0x1b0b, 0x1b35, 0x1b0c), (0x1b0d, 0x1b35, 0x1b0e), (0x1b11, 0x1b35, 0x1b12),
   (0x1b3a, 0x1b35, 0x1b3b), (0x1b3c, 0x1b35, 0x1b3d), (0x1b3e, 0x1b35, 0x1b40), (0x1b3f, 0x1b35, 0x1b41),
   (0x1b42, 0x1b35, 0x1b43), (0x61, 0x325, 0x1e01), (0x62, 0x307, 0x1e03), (0x62, 0x323, 0x1e05), (0x62, 0x331, 0x1e07),
   (0xe7, 0x301, 0x1e09), (0x64, 0x307, 0x1e0b), (0x64, 0x323, 0x1e0d), (0x64, 0x331, 0x1e0f), (0x64, 0x327, 0x1e11),
   (0x64, 0x32d, 0x1e13), (0x113, 0x300, 0x1e15), (0x113, 0x301, 0x1e17), (0x65, 0x32d, 0x1e19), (0x65, 0x330, 0x1e1b),
   (0x229, 0x306, 0x1e1d), (0x66, 0x307, 0x1e1f), (0x67, 0x304, 0x1e21), (0x68, 0x307, 0x1e23), (0x68, 0x323, 0x1e25),
   (0x68, 0x308, 0x1e27), (0x68, 0x327, 0x1e29), (0x68, 0x32e, 0x1e2b), (0x69, 0x330, 0x1e2d), (0xef, 0x301, 0x1e2f),
   (0x6b, 0x301, 0x1e31), (0x6b, 0x323, 0x1e33), (0x6b, 0x331, 0x1e35), (0x6c, 0x323, 0x1e37), (0x1e37, 0x304, 0x1e39),
   (0x6c, 0x331, 0x1e3b), (0x6c, 0x32d, 0x1e3d), (0x6d, 0x301, 0x1e3f), (0x6d, 0x307, 0x1e41), (0x6d, 0x323, 0x1e43),
   (0x6e, 0x307, 0x1e45), (0x6e, 0x323, 0x1e47), (0x6e, 0x331, 0x1e49), (0x6e, 0x32d, 0x1e4b), (0xf5, 0x301, 0x1e4d),
   (0xf5, 0x308, 0x1e4f), (0x14d, 0x300, 0x1e51), (0x14d, 0x301, 0x1e53), (0x70, 0x301, 0x1e55), (0x70, 0x307, 0x1e57),
   (0x72, 0x307, 0x1e59), (0x72, 0x323, 0x1e5b), (0x1e5b, 0x304, 0x1e5d), (0x72, 0x331, 0x1e5f), (0x73, 0x307, 0x1e61),
   (0x73, 0x323, 0x1e63), (0x15b, 0x307, 0x1e65), (0x161, 0x307, 0x1e67), (0x1e63, 0x307, 0x1e69), (0x74, 0x307, 0x1e6b),
   (0x74, 0x323, 0x1e6d), (0x74, 0x331, 0x1e6f), (0x74, 0x32d, 0x1e71), (0x75, 0x324, 0x1e73), (0x75, 0x330, 0x1e75),
   (0x75, 0x32d, 0x1e77), (0x169, 0x301, 0x1e79), (0x16b, 0x308, 0x1e7b), (0x76, 0x303, 0x1e7d), (0x76, 0x323, 0x1e7f),
   (0x77, 0x300, 0x1e81), (0x77, 0x301, 0x1e83), (0x77, 0x308, 0x1e85), (0x77, 0x307, 0x1e87), (0x77, 0x323, 0x1e89),
   (0x78, 0x307, 0x1e8b), (0x78, 0x308, 0x1e8d), (0x79, 0x307, 0x1e8f), (0x7a, 0x302, 0x1e91), (0x7a, 0x323, 0x1e93),
   (0x7a, 0x331, 0x1e95), (0x68, 0x331, 0x1e96), (0x74, 0x308, 0x1e97), (0x77, 0x30a, 0x1e98), (0x79, 0x30a, 0x1e99),
   (0x61, 0x323, 0x1ea1), (0x61, 0x309, 0x1ea3), (0xe2, 0x301, 0x1ea5), (0xe2, 0x300, 0x1ea7), (0xe2, 0x309, 0x1ea9),
   (0xe2, 0x303, 0x1eab), (0x1ea1, 0x302, 0x1ead), (0x103, 0x301, 0x1eaf), (0x103, 0x300, 0x1eb1), (0x103, 0x309, 0x1eb3),
   (0x103, 0x303, 0x1eb5), (0x1ea1, 0x306, 0x1eb7), (0x65, 0x323, 0x1eb9), (0x65, 0x309, 0x1ebb), (0x65, 0x303, 0x1ebd),
   (0xea, 0x301, 0x1ebf), (0xea, 0x300, 0x1ec1), (0xea, 0x309, 0x1ec3), (0xea, 0x303, 0x1ec5), (0x1eb9, 0x302, 0x1ec7),
   (0x69, 0x309, 0x1ec9), (0x69, 0x323, 0x1ecb), (0x6f, 0x323, 0x1ecd), (0x6f, 0x309, 0x1ecf), (0xf4, 0x301, 0x1ed1),
   (0xf4, 0x300, 0x1ed3), (0xf4, 0x309, 0x1ed5), (0xf4, 0x303, 0x1ed7), (0x1ecd, 0x302, 0x1ed9), (0x1a1, 0x301, 0x1edb),
   (0x1a1, 0x300, 0x1edd), (0x1a1, 0x309, 0x1edf), (0x1a1, 0x303, 0x1ee1), (0x1a1, 0x323, 0x1ee3), (0x75, 0x323, 0x1ee5),
   (0x75, 0x309, 0x1ee7), (0x1b0, 0x301, 0x1ee9), (0x1b0, 0x300, 0x1eeb), (0x1b0, 0x309, 0x1eed), (0x1b0, 0x303, 0x1eef),
   (0x1b0, 0x323, 0x1ef1), (0x79, 0x300, 0x1ef3), (0x79, 0x323, 0x1ef5), (0x79, 0x309, 0x1ef7), (0x79, 0x303, 0x1ef9),
   (0x3b1, 0x313, 0x1f00), (0x3b1, 0x314, 0x1f01), (0x1f00, 0x300, 0x1f02), (0x1f01, 0x300, 0x1f03), (0x1f00, 0x301, 0x1f04),
   (0x1f01, 0x301, 0x1f05), (0x1f00, 0x342, 0x1f06), (0x1f01, 0x342, 0x1f07), (0x3b5, 0x313, 0x1f10), (0x3b5, 0x314, 0x1f11),
   (0x1f10, 0x300, 0x1f12), (0x1f11, 0x300, 0x1f13), (0x1f10, 0x301, 0x1f14), (0x1f11, 0x301, 0x1f15), (0x3b7, 0x313, 0x1f20),
   (0x3b7, 0x314, 0x1f21), (0x1f20, 0x300, 0x1f22), (0x1f21, 0x300, 0x1f23), (0x1f20, 0x301, 0x1f24), (0x1f21, 0x301, 0x1f25),
   (0x1f20, 0x342, 0x1f26), (0x1f21, 0x342, 0x1f27), (0x3b9, 0x313, 0x1f30), (0x3b9, 0x314, 0x1f31), (0x1f30, 0x300, 0x1f32),
   (0x1f31, 0x300, 0x1f33), (0x1f30, 0x301, 0x1f34), (0x1f31, 0x301, 0x1f35), (0x1f30, 0x342, 0x1f36),
   (0x1f31, 0x342, 0x1f37), (0x3bf, 0x313, 0x1f40), (0x3bf, 0x314, 0x1f41), (0x1f40, 0x300, 0x1f42), (0x1f41, 0x300, 0x1f43),
   (0x1f40, 0x301, 0x1f44), (0x1f41, 0x301, 0x1f45), (0x3c5, 0x313, 0x1f50), (0x3c5, 0x314, 0x1f51), (0x1f50, 0x300, 0x1f52),
   (0x1f51, 0x300, 0x1f53), (0x1f50, 0x301, 0x1f54), (0x1f51, 0x301, 0x1f55), (0x1f50, 0x342, 0x1f56),
   (0x1f51, 0x342, 0x1f57), (0x3c9, 0x313, 0x1f60), (0x3c9, 0x314, 0x1f61), (0x1f60, 0x300, 0x1f62), (0x1f61, 0x300, 0x1f63),
   (0x1f60, 0x301, 0x1f64), (0x1f61, 0x301, 0x1f65), (0x1f60, 0x342, 0x1f66), (0x1f61, 0x342, 0x1f67), (0x3b1, 0x300, 0x1f70),
   (0x3b5, 0x300, 0x1f72), (0x3b7, 0x300, 0x1f74), (0x3b9, 0x300, 0x1f76), (0x3bf, 0x300, 0x1f78), (0x3c5, 0x300, 0x1f7a),
   (0x3c9, 0x300, 0x1f7c), (0x3b1, 0x306, 0x1fb0), (0x3b1, 0x304, 0x1fb1), (0x3b1, 0x342, 0x1fb6), (0x3b7, 0x342, 0x1fc6),
   (0x3b9, 0x306, 0x1fd0), (0x3b9, 0x304, 0x1fd1), (0x3ca, 0x300, 0x1fd2), (0x3b9, 0x342, 0x1fd6), (0x3ca, 0x342, 0x1fd7),
   (0x3c5, 0x306, 0x1fe0), (0x3c5, 0x304, 0x1fe1), (0x3cb, 0x300, 0x1fe2), (0x3c1, 0x313, 0x1fe4), (0x3c1, 0x314, 0x1fe5),
   (0x3c5, 0x342, 0x1fe6), (0x3cb, 0x342, 0x1fe7), (0x3c9, 0x342, 0x1ff6), (0x304b, 0x3099, 0x304c), (0x304d, 0x3099, 0x304e),
   (0x304f, 0x3099, 0x3050), (0x3051, 0x3099, 0x3052), (0x3053, 0x3099, 0x3054), (0x3055, 0x3099, 0x3056),
   (0x3057, 0x3099, 0x3058), (0x3059, 0x3099, 0x305a), (0x305b, 0x3099, 0x305c), (0x305d, 0x3099, 0x305e),
   (0x305f, 0x3099, 0x3060), (0x3061, 0x3099, 0x3062), (0x3064, 0x3099, 0x3065), (0x3066, 0x3099, 0x3067),
   (0x3068, 0x3099, 0x3069), (0x306f, 0x3099, 0x3070), (0x306f, 0x309a, 0x3071), (0x3072, 0x3099, 0x3073),
   (0x3072, 0x309a, 0x3074), (0x3075, 0x3099, 0x3076), (0x3075, 0x309a, 0x3077), (0x3078, 0x3099, 0x3079),
   (0x3078, 0x309a, 0x307a), (0x307b, 0x3099, 0x307c), (0x307b, 0x309a, 0x307d), (0x3046, 0x3099, 0x3094),
   (0x309d, 0x3099, 0x309e), (0x30ab, 0x3099, 0x30ac), (0x30ad, 0x3099, 0x30ae), (0x30af, 0x3099, 0x30b0),
   (0x30b1, 0x3099, 0x30b2), (0x30b3, 0x3099, 0x30b4), (0x30b5, 0x3099, 0x30b6), (0x30b7, 0x3099, 0x30b8),
   (0x30b9, 0x3099, 0x30ba), (0x30bb, 0x3099, 0x30bc), (0x30bd, 0x3099, 0x30be), (0x30bf, 0x3099, 0x30c0),
   (0x30c1, 0x3099, 0x30c2), (0x30c4, 0x3099, 0x30c5), (0x30c6, 0x3099, 0x30c7), (0x30c8, 0x3099, 0x30c9),
   (0x30cf, 0x3099, 0x30d0), (0x30cf, 0x309a, 0x30d1), (0x30d2, 0x3099, 0x30d3), (0x30d2, 0x309a, 0x30d4),
   (0x30d5, 0x3099, 0x30d6), (0x30d5, 0x309a, 0x30d7), (0x30d8, 0x3099, 0x30d9), (0x30d8, 0x309a, 0x30da),
   (0x30db, 0x3099, 0x30dc), (0x30db, 0x309a, 0x30dd), (0x30a6, 0x3099, 0x30f4), (0x30ef, 0x3099, 0x30f7),
   (0x30f0, 0x3099, 0x30f8), (0x30f1, 0x3099, 0x30f9), (0x30f2, 0x3099, 0x30fa), (0x30fd, 0x3099, 0x30fe),
   (0x11099, 0x110ba, 0x1109a), (0x1109b, 0x110ba, 0x1109c), (0x110a5, 0x110ba, 0x110ab), (0x11131, 0x11127, 0x1112e),
   (0x11132, 0x11127, 0x1112f), (0x11347, 0x1133e, 0x1134b), (0x11347, 0x11357, 0x1134c), (0x114b9, 0x114ba, 0x114bb),
   (0x114b9, 0x114b0, 0x114bc), (0x114b9, 0x114bd, 0x114be), (0x115b8, 0x115af, 0x115ba), (0x115b9, 0x115af, 0x115bb),
   (0x11935, 0x11930, 0x11938)]

/-- What a letter and a mark make together. -/
def compose? (letter mark : Nat) : Option Nat :=
  (compositions.find? fun e => e.1 = letter && e.2.1 = mark).map (·.2.2)

/-- A code point taken apart. The first argument bounds the depth, which is at most three. -/
def decomposeWithin : Nat → Nat → List Nat
  | 0, c => [c]
  | depth + 1, c =>
    match compositions.find? (·.2.2 = c) with
    | some (letter, mark, _) => decomposeWithin depth letter ++ [mark]
    | none => [c]

/-- A code point taken apart. -/
def decompose (c : Nat) : List Nat :=
  decomposeWithin 4 c

/-- Puts a mark behind the marks of a text that is given backwards, in front of those of a higher class. -/
def insertMark (c : Nat) : List Nat → List Nat
  | [] => [c]
  | d :: rest => if combiningClass c < combiningClass d then d :: insertMark c rest else c :: d :: rest

/-- A text with the marks on each letter in the order of their classes. -/
def orderMarks (cs : List Nat) : List Nat :=
  (cs.foldl (fun acc c => if combiningClass c = 0 then c :: acc else insertMark c acc) []).reverse

/-- A letter with the marks that stay on it, the last first. -/
structure Cluster where
  letter : Nat
  marks : List Nat := []

/-- The code points of a cluster. -/
def Cluster.toList (c : Cluster) : List Nat :=
  c.letter :: c.marks.reverse

/-- Whether nothing stands between the letter of a cluster and a following code point that keeps them apart. -/
def Cluster.reaches (cluster : Cluster) (c : Nat) : Bool :=
  match cluster.marks with
  | [] => true
  | m :: _ => combiningClass m < combiningClass c

/-- A text put together, behind a cluster. -/
def composeFrom (cluster : Cluster) : List Nat → List Nat
  | [] => cluster.toList
  | c :: cs =>
    match if cluster.reaches c then compose? cluster.letter c else none with
    | some letter => composeFrom { cluster with letter } cs
    | none =>
      if combiningClass c = 0 then cluster.toList ++ composeFrom ⟨c, []⟩ cs
      else composeFrom { cluster with marks := c :: cluster.marks } cs

/-- The composed form of a text that begins with a letter. -/
def composed (cs : List Nat) : List Nat :=
  match orderMarks (cs.flatMap decompose) with
  | [] => []
  | c :: cs => composeFrom ⟨c, []⟩ cs

end OAuthClient.Uri.Label
