import MediaNaming.Text.Property.CaseMap

/-
How the characters of host names are taken, by code point, beside their small letters.
-/
namespace MediaNaming.Property

def traceless : List (Nat × Nat) :=
  [(0xad, 0xad), (0x34f, 0x34f), (0x115f, 0x1160), (0x17b4, 0x17b5), (0x180b, 0x180f),
  (0x200b, 0x200b), (0x2060, 0x2064), (0x206a, 0x206f), (0x3164, 0x3164), (0xfe00, 0xfe0f),
  (0xfeff, 0xfeff), (0xffa0, 0xffa0), (0x1bca0, 0x1bca3), (0x1d173, 0x1d17a), (0xe0100, 0xe01ef)]

/-- Characters that show on paper and that no host name may hold: what they stand for is blank,
    a mark of punctuation that ends a host, or nothing. -/
def barred : List (Nat × Nat) :=
  [(0xa8, 0xa8), (0xaf, 0xaf), (0xb4, 0xb4), (0xb8, 0xb8), (0x2d8, 0x2dd), (0x37a, 0x37a),
  (0x384, 0x385), (0x1fbd, 0x1fbd), (0x1fbf, 0x1fc1), (0x1fcd, 0x1fcf), (0x1fdd, 0x1fdf),
  (0x1fed, 0x1fee), (0x1ffd, 0x1ffe), (0x2017, 0x2017), (0x2024, 0x2026), (0x203e, 0x203e),
  (0x2047, 0x2049), (0x2100, 0x2101), (0x2105, 0x2106), (0x2488, 0x249b), (0x2a74, 0x2a74),
  (0x2ff0, 0x2fff), (0x309b, 0x309c), (0x31ef, 0x31ef), (0x33c2, 0x33c2), (0x33c7, 0x33c7),
  (0x33d8, 0x33d8), (0xfc5e, 0xfc63), (0xfdfa, 0xfdfb), (0xfe12, 0xfe13), (0xfe16, 0xfe16),
  (0xfe19, 0xfe19), (0xfe30, 0xfe30), (0xfe47, 0xfe4c), (0xfe52, 0xfe52), (0xfe55, 0xfe56),
  (0xfe5f, 0xfe5f), (0xfe64, 0xfe65), (0xfe68, 0xfe68), (0xfe6a, 0xfe6b), (0xfe70, 0xfe70),
  (0xfe72, 0xfe72), (0xfe74, 0xfe74), (0xfe76, 0xfe76), (0xfe78, 0xfe78), (0xfe7a, 0xfe7a),
  (0xfe7c, 0xfe7c), (0xfe7e, 0xfe7e), (0xff03, 0xff03), (0xff05, 0xff05), (0xff0f, 0xff0f),
  (0xff1a, 0xff1a), (0xff1c, 0xff1c), (0xff1e, 0xff20), (0xff3b, 0xff3e), (0xff5c, 0xff5c),
  (0xffe3, 0xffe3), (0xfffc, 0xfffd), (0x1f100, 0x1f100)]

def asciiForms : List Shift :=
  [⟨0xaa, 0xaa, 1, 0x61⟩, ⟨0xb2, 0xb3, 1, 0x32⟩, ⟨0xb9, 0xb9, 1, 0x31⟩, ⟨0xba, 0xba, 1, 0x6f⟩,
  ⟨0x17f, 0x17f, 1, 0x73⟩, ⟨0x2b0, 0x2b2, 2, 0x68⟩, ⟨0x2b3, 0x2b3, 1, 0x72⟩,
  ⟨0x2b7, 0x2b7, 1, 0x77⟩, ⟨0x2b8, 0x2b8, 1, 0x79⟩, ⟨0x2e1, 0x2e1, 1, 0x6c⟩,
  ⟨0x2e2, 0x2e2, 1, 0x73⟩, ⟨0x2e3, 0x2e3, 1, 0x78⟩, ⟨0x37e, 0x37e, 1, 0x3b⟩,
  ⟨0x1d2c, 0x1d2c, 1, 0x61⟩, ⟨0x1d2e, 0x1d30, 2, 0x62⟩, ⟨0x1d31, 0x1d33, 2, 0x65⟩,
  ⟨0x1d34, 0x1d3a, 1, 0x68⟩, ⟨0x1d3c, 0x1d3c, 1, 0x6f⟩, ⟨0x1d3e, 0x1d3e, 1, 0x70⟩,
  ⟨0x1d3f, 0x1d3f, 1, 0x72⟩, ⟨0x1d40, 0x1d41, 1, 0x74⟩, ⟨0x1d42, 0x1d42, 1, 0x77⟩,
  ⟨0x1d43, 0x1d43, 1, 0x61⟩, ⟨0x1d47, 0x1d47, 1, 0x62⟩, ⟨0x1d48, 0x1d49, 1, 0x64⟩,
  ⟨0x1d4d, 0x1d4d, 1, 0x67⟩, ⟨0x1d4f, 0x1d4f, 1, 0x6b⟩, ⟨0x1d50, 0x1d52, 2, 0x6d⟩,
  ⟨0x1d56, 0x1d56, 1, 0x70⟩, ⟨0x1d57, 0x1d58, 1, 0x74⟩, ⟨0x1d5b, 0x1d5b, 1, 0x76⟩,
  ⟨0x1d62, 0x1d62, 1, 0x69⟩, ⟨0x1d63, 0x1d63, 1, 0x72⟩, ⟨0x1d64, 0x1d65, 1, 0x75⟩,
  ⟨0x1d9c, 0x1d9c, 1, 0x63⟩, ⟨0x1da0, 0x1da0, 1, 0x66⟩, ⟨0x1dbb, 0x1dbb, 1, 0x7a⟩,
  ⟨0x1fef, 0x1fef, 1, 0x60⟩, ⟨0x2070, 0x2070, 1, 0x30⟩, ⟨0x2071, 0x2071, 1, 0x69⟩,
  ⟨0x2074, 0x2079, 1, 0x34⟩, ⟨0x207a, 0x207a, 1, 0x2b⟩, ⟨0x207c, 0x207c, 1, 0x3d⟩,
  ⟨0x207d, 0x207e, 1, 0x28⟩, ⟨0x207f, 0x207f, 1, 0x6e⟩, ⟨0x2080, 0x2089, 1, 0x30⟩,
  ⟨0x208a, 0x208a, 1, 0x2b⟩, ⟨0x208c, 0x208c, 1, 0x3d⟩, ⟨0x208d, 0x208e, 1, 0x28⟩,
  ⟨0x2090, 0x2090, 1, 0x61⟩, ⟨0x2091, 0x2091, 1, 0x65⟩, ⟨0x2092, 0x2092, 1, 0x6f⟩,
  ⟨0x2093, 0x2093, 1, 0x78⟩, ⟨0x2095, 0x2095, 1, 0x68⟩, ⟨0x2096, 0x2099, 1, 0x6b⟩,
  ⟨0x209a, 0x209a, 1, 0x70⟩, ⟨0x209b, 0x209c, 1, 0x73⟩, ⟨0x2102, 0x2102, 1, 0x63⟩,
  ⟨0x210a, 0x210b, 1, 0x67⟩, ⟨0x210c, 0x210c, 1, 0x68⟩, ⟨0x210d, 0x210d, 1, 0x68⟩,
  ⟨0x210e, 0x210e, 1, 0x68⟩, ⟨0x2110, 0x2110, 1, 0x69⟩, ⟨0x2111, 0x2111, 1, 0x69⟩,
  ⟨0x2112, 0x2112, 1, 0x6c⟩, ⟨0x2113, 0x2115, 2, 0x6c⟩, ⟨0x2119, 0x211b, 1, 0x70⟩,
  ⟨0x211c, 0x211c, 1, 0x72⟩, ⟨0x211d, 0x211d, 1, 0x72⟩, ⟨0x2124, 0x2124, 1, 0x7a⟩,
  ⟨0x2128, 0x2128, 1, 0x7a⟩, ⟨0x212a, 0x212a, 1, 0x6b⟩, ⟨0x212c, 0x212d, 1, 0x62⟩,
  ⟨0x212f, 0x212f, 1, 0x65⟩, ⟨0x2130, 0x2131, 1, 0x65⟩, ⟨0x2133, 0x2133, 1, 0x6d⟩,
  ⟨0x2134, 0x2134, 1, 0x6f⟩, ⟨0x2139, 0x2139, 1, 0x69⟩, ⟨0x2145, 0x2145, 1, 0x64⟩,
  ⟨0x2146, 0x2147, 1, 0x64⟩, ⟨0x2148, 0x2149, 1, 0x69⟩, ⟨0x2160, 0x2160, 1, 0x69⟩,
  ⟨0x2164, 0x2164, 1, 0x76⟩, ⟨0x2169, 0x2169, 1, 0x78⟩, ⟨0x216c, 0x216c, 1, 0x6c⟩,
  ⟨0x216d, 0x216e, 1, 0x63⟩, ⟨0x216f, 0x216f, 1, 0x6d⟩, ⟨0x2170, 0x2170, 1, 0x69⟩,
  ⟨0x2174, 0x2174, 1, 0x76⟩, ⟨0x2179, 0x2179, 1, 0x78⟩, ⟨0x217c, 0x217c, 1, 0x6c⟩,
  ⟨0x217d, 0x217e, 1, 0x63⟩, ⟨0x217f, 0x217f, 1, 0x6d⟩, ⟨0x2460, 0x2468, 1, 0x31⟩,
  ⟨0x24b6, 0x24cf, 1, 0x61⟩, ⟨0x24d0, 0x24e9, 1, 0x61⟩, ⟨0x24ea, 0x24ea, 1, 0x30⟩,
  ⟨0x2c7c, 0x2c7c, 1, 0x6a⟩, ⟨0x2c7d, 0x2c7d, 1, 0x76⟩, ⟨0x3002, 0x3002, 1, 0x2e⟩,
  ⟨0xa7f1, 0xa7f1, 1, 0x73⟩, ⟨0xa7f2, 0xa7f2, 1, 0x63⟩, ⟨0xa7f3, 0xa7f3, 1, 0x66⟩,
  ⟨0xa7f4, 0xa7f4, 1, 0x71⟩, ⟨0xfb29, 0xfb29, 1, 0x2b⟩, ⟨0xfe10, 0xfe10, 1, 0x2c⟩,
  ⟨0xfe14, 0xfe14, 1, 0x3b⟩, ⟨0xfe15, 0xfe15, 1, 0x21⟩, ⟨0xfe33, 0xfe33, 1, 0x5f⟩,
  ⟨0xfe34, 0xfe34, 1, 0x5f⟩, ⟨0xfe35, 0xfe36, 1, 0x28⟩, ⟨0xfe37, 0xfe37, 1, 0x7b⟩,
  ⟨0xfe38, 0xfe38, 1, 0x7d⟩, ⟨0xfe4d, 0xfe4d, 1, 0x5f⟩, ⟨0xfe4e, 0xfe4e, 1, 0x5f⟩,
  ⟨0xfe4f, 0xfe4f, 1, 0x5f⟩, ⟨0xfe50, 0xfe50, 1, 0x2c⟩, ⟨0xfe54, 0xfe54, 1, 0x3b⟩,
  ⟨0xfe57, 0xfe57, 1, 0x21⟩, ⟨0xfe59, 0xfe5a, 1, 0x28⟩, ⟨0xfe5b, 0xfe5b, 1, 0x7b⟩,
  ⟨0xfe5c, 0xfe5c, 1, 0x7d⟩, ⟨0xfe60, 0xfe60, 1, 0x26⟩, ⟨0xfe61, 0xfe62, 1, 0x2a⟩,
  ⟨0xfe63, 0xfe63, 1, 0x2d⟩, ⟨0xfe66, 0xfe66, 1, 0x3d⟩, ⟨0xfe69, 0xfe69, 1, 0x24⟩,
  ⟨0xff01, 0xff02, 1, 0x21⟩, ⟨0xff04, 0xff06, 2, 0x24⟩, ⟨0xff07, 0xff0e, 1, 0x27⟩,
  ⟨0xff10, 0xff19, 1, 0x30⟩, ⟨0xff1b, 0xff1d, 2, 0x3b⟩, ⟨0xff21, 0xff3a, 1, 0x61⟩,
  ⟨0xff3f, 0xff5b, 1, 0x5f⟩, ⟨0xff5d, 0xff5e, 1, 0x7d⟩, ⟨0xff61, 0xff61, 1, 0x2e⟩,
  ⟨0x107a5, 0x107a5, 1, 0x71⟩, ⟨0x1ccd6, 0x1ccef, 1, 0x61⟩, ⟨0x1ccf0, 0x1ccf9, 1, 0x30⟩,
  ⟨0x1d400, 0x1d419, 1, 0x61⟩, ⟨0x1d41a, 0x1d433, 1, 0x61⟩, ⟨0x1d434, 0x1d44d, 1, 0x61⟩,
  ⟨0x1d44e, 0x1d454, 1, 0x61⟩, ⟨0x1d456, 0x1d467, 1, 0x69⟩, ⟨0x1d468, 0x1d481, 1, 0x61⟩,
  ⟨0x1d482, 0x1d49b, 1, 0x61⟩, ⟨0x1d49c, 0x1d49e, 2, 0x61⟩, ⟨0x1d49f, 0x1d49f, 1, 0x64⟩,
  ⟨0x1d4a2, 0x1d4a2, 1, 0x67⟩, ⟨0x1d4a5, 0x1d4a6, 1, 0x6a⟩, ⟨0x1d4a9, 0x1d4ac, 1, 0x6e⟩,
  ⟨0x1d4ae, 0x1d4b5, 1, 0x73⟩, ⟨0x1d4b6, 0x1d4b9, 1, 0x61⟩, ⟨0x1d4bb, 0x1d4bd, 2, 0x66⟩,
  ⟨0x1d4be, 0x1d4c3, 1, 0x69⟩, ⟨0x1d4c5, 0x1d4cf, 1, 0x70⟩, ⟨0x1d4d0, 0x1d4e9, 1, 0x61⟩,
  ⟨0x1d4ea, 0x1d503, 1, 0x61⟩, ⟨0x1d504, 0x1d505, 1, 0x61⟩, ⟨0x1d507, 0x1d50a, 1, 0x64⟩,
  ⟨0x1d50d, 0x1d514, 1, 0x6a⟩, ⟨0x1d516, 0x1d51c, 1, 0x73⟩, ⟨0x1d51e, 0x1d537, 1, 0x61⟩,
  ⟨0x1d538, 0x1d539, 1, 0x61⟩, ⟨0x1d53b, 0x1d53e, 1, 0x64⟩, ⟨0x1d540, 0x1d544, 1, 0x69⟩,
  ⟨0x1d546, 0x1d546, 1, 0x6f⟩, ⟨0x1d54a, 0x1d550, 1, 0x73⟩, ⟨0x1d552, 0x1d56b, 1, 0x61⟩,
  ⟨0x1d56c, 0x1d585, 1, 0x61⟩, ⟨0x1d586, 0x1d59f, 1, 0x61⟩, ⟨0x1d5a0, 0x1d5b9, 1, 0x61⟩,
  ⟨0x1d5ba, 0x1d5d3, 1, 0x61⟩, ⟨0x1d5d4, 0x1d5ed, 1, 0x61⟩, ⟨0x1d5ee, 0x1d607, 1, 0x61⟩,
  ⟨0x1d608, 0x1d621, 1, 0x61⟩, ⟨0x1d622, 0x1d63b, 1, 0x61⟩, ⟨0x1d63c, 0x1d655, 1, 0x61⟩,
  ⟨0x1d656, 0x1d66f, 1, 0x61⟩, ⟨0x1d670, 0x1d689, 1, 0x61⟩, ⟨0x1d68a, 0x1d6a3, 1, 0x61⟩,
  ⟨0x1d7ce, 0x1d7d7, 1, 0x30⟩, ⟨0x1d7d8, 0x1d7e1, 1, 0x30⟩, ⟨0x1d7e2, 0x1d7eb, 1, 0x30⟩,
  ⟨0x1d7ec, 0x1d7f5, 1, 0x30⟩, ⟨0x1d7f6, 0x1d7ff, 1, 0x30⟩, ⟨0x1f12b, 0x1f12b, 1, 0x63⟩,
  ⟨0x1f12c, 0x1f12c, 1, 0x72⟩, ⟨0x1f130, 0x1f149, 1, 0x61⟩, ⟨0x1fbf0, 0x1fbf9, 1, 0x30⟩]

/-- Characters that stand for others outside ASCII, and not as capitals for small letters. Ranges
    may run over code points that no name holds. -/
def aliases : List (Nat × Nat) :=
  [(0xa0, 0xa0), (0xb5, 0xb5), (0xbc, 0xbe), (0x133, 0x133), (0x140, 0x140), (0x149, 0x149),
  (0x1c6, 0x1cc), (0x1f3, 0x1f3), (0x2b1, 0x2b1), (0x2b4, 0x2b6), (0x2e0, 0x2e0), (0x2e4, 0x2e4),
  (0x340, 0x341), (0x343, 0x345), (0x374, 0x374), (0x387, 0x387), (0x3d0, 0x3d6), (0x3f0, 0x3f2),
  (0x3f5, 0x3f5), (0x587, 0x587), (0x675, 0x678), (0x958, 0x95f), (0x9dc, 0x9df), (0xa33, 0xa33),
  (0xa36, 0xa36), (0xa59, 0xa5b), (0xa5e, 0xa5e), (0xb5c, 0xb5d), (0xe33, 0xe33), (0xeb3, 0xeb3),
  (0xedc, 0xedd), (0xf0c, 0xf0c), (0xf43, 0xf43), (0xf4d, 0xf4d), (0xf52, 0xf52), (0xf57, 0xf57),
  (0xf5c, 0xf5c), (0xf69, 0xf69), (0xf73, 0xf73), (0xf75, 0xf79), (0xf81, 0xf81), (0xf93, 0xf93),
  (0xf9d, 0xf9d), (0xfa2, 0xfa2), (0xfa7, 0xfa7), (0xfac, 0xfac), (0xfb9, 0xfb9), (0x10fc, 0x10fc),
  (0x13f8, 0x13fd), (0x1c80, 0x1c88), (0x1d2d, 0x1d2d), (0x1d32, 0x1d32), (0x1d3d, 0x1d3d),
  (0x1d44, 0x1d46), (0x1d4a, 0x1d4c), (0x1d51, 0x1d51), (0x1d53, 0x1d55), (0x1d59, 0x1d5a),
  (0x1d5c, 0x1d61), (0x1d66, 0x1d6a), (0x1d78, 0x1d78), (0x1d9b, 0x1d9b), (0x1d9d, 0x1d9f),
  (0x1da1, 0x1dba), (0x1dbc, 0x1dbf), (0x1e9a, 0x1e9b), (0x1f71, 0x1f71), (0x1f73, 0x1f73),
  (0x1f75, 0x1f75), (0x1f77, 0x1f77), (0x1f79, 0x1f79), (0x1f7b, 0x1f7b), (0x1f7d, 0x1fa7),
  (0x1fb2, 0x1fb4), (0x1fb7, 0x1fb7), (0x1fbe, 0x1fbe), (0x1fc2, 0x1fc4), (0x1fc7, 0x1fc7),
  (0x1fd3, 0x1fd3), (0x1fe3, 0x1fe3), (0x1ff2, 0x1ff4), (0x1ff7, 0x1ff7), (0x2000, 0x200a),
  (0x2011, 0x2011), (0x202f, 0x202f), (0x2033, 0x2034), (0x2036, 0x2037), (0x203c, 0x203c),
  (0x2057, 0x2057), (0x205f, 0x205f), (0x207b, 0x207b), (0x208b, 0x208b), (0x2094, 0x2094),
  (0x20a8, 0x20a8), (0x2103, 0x2103), (0x2107, 0x2107), (0x2109, 0x2109), (0x210f, 0x210f),
  (0x2116, 0x2116), (0x2120, 0x2122), (0x2135, 0x2138), (0x213b, 0x2140), (0x2150, 0x215f),
  (0x2171, 0x2173), (0x2175, 0x2178), (0x217a, 0x217b), (0x2189, 0x2189), (0x222c, 0x222d),
  (0x222f, 0x2230), (0x2329, 0x232a), (0x2469, 0x24b5), (0x2a0c, 0x2a0c), (0x2a75, 0x2a76),
  (0x2adc, 0x2adc), (0x2d6f, 0x2d6f), (0x2e9f, 0x2e9f), (0x2ef3, 0x3000), (0x3036, 0x3036),
  (0x3038, 0x303a), (0x309f, 0x309f), (0x30ff, 0x30ff), (0x3131, 0x318e), (0x3192, 0x319f),
  (0x3200, 0x3247), (0x3250, 0x327e), (0x3280, 0x33ff), (0xa69c, 0xa69d), (0xa770, 0xa770),
  (0xa7f8, 0xa7f9), (0xab5c, 0xab5f), (0xab69, 0xab69), (0xab70, 0xabbf), (0xf900, 0xfa0d),
  (0xfa10, 0xfa10), (0xfa12, 0xfa12), (0xfa15, 0xfa1e), (0xfa20, 0xfa20), (0xfa22, 0xfa22),
  (0xfa25, 0xfa26), (0xfa2a, 0xfb1d), (0xfb1f, 0xfb28), (0xfb2a, 0xfbb1), (0xfbd3, 0xfc5d),
  (0xfc64, 0xfd3d), (0xfd50, 0xfd8f), (0xfd92, 0xfdc7), (0xfdf0, 0xfdf9), (0xfdfc, 0xfdfc),
  (0xfe11, 0xfe11), (0xfe17, 0xfe18), (0xfe31, 0xfe32), (0xfe39, 0xfe44), (0xfe51, 0xfe51),
  (0xfe58, 0xfe58), (0xfe5d, 0xfe5e), (0xfe71, 0xfe71), (0xfe77, 0xfe77), (0xfe79, 0xfe79),
  (0xfe7b, 0xfe7b), (0xfe7d, 0xfe7d), (0xfe7f, 0xfefc), (0xff5f, 0xff60), (0xff62, 0xffe2),
  (0xffe4, 0xffee), (0x10781, 0x107a4), (0x107a6, 0x107ba), (0x1d15e, 0x1d164), (0x1d1bb, 0x1d1c0),
  (0x1d6a4, 0x1d7cb), (0x1e030, 0x1e06d), (0x1ee00, 0x1eebb), (0x1f101, 0x1f10a),
  (0x1f110, 0x1f12a), (0x1f12d, 0x1f12e), (0x1f14a, 0x1f14f), (0x1f16a, 0x1f16c),
  (0x1f190, 0x1f190), (0x1f200, 0x1f251), (0x2f800, 0x2fa1d)]

end MediaNaming.Property
