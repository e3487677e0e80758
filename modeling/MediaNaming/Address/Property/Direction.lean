/-
The reading directions of characters that names may hold, by code point. Ranges may run over
code points that no name holds. What is in no list is read from left to right.
-/
namespace MediaNaming.Property

def rightToLeft : List (Nat × Nat) :=
  [(0x5be, 0x5be), (0x5c0, 0x5c0), (0x5c3, 0x5c3), (0x5c6, 0x5c6), (0x5d0, 0x5f4), (0x608, 0x608),
  (0x60b, 0x60b), (0x60d, 0x60d), (0x61b, 0x64a), (0x66d, 0x66f), (0x671, 0x6d5), (0x6e5, 0x6e6),
  (0x6ee, 0x6ef), (0x6fa, 0x710), (0x712, 0x72f), (0x74d, 0x7a5), (0x7b1, 0x7ea), (0x7f4, 0x7f5),
  (0x7fa, 0x7fa), (0x7fe, 0x815), (0x81a, 0x81a), (0x824, 0x824), (0x828, 0x828), (0x830, 0x858),
  (0x85e, 0x897), (0x8a0, 0x8c9), (0xfb1d, 0xfb1d), (0xfb1f, 0xfb28), (0xfb2a, 0xfd3d),
  (0xfd50, 0xfdce), (0xfdf0, 0xfdfc), (0xfe70, 0xfefc), (0x10800, 0x1091b), (0x10920, 0x10a00),
  (0x10a10, 0x10a35), (0x10a40, 0x10ae4), (0x10aeb, 0x10b35), (0x10b40, 0x10d23),
  (0x10d40, 0x10d8f), (0x10e80, 0x10ea9), (0x10ead, 0x10efc), (0x10f00, 0x10f45),
  (0x10f51, 0x10f81), (0x10f86, 0x10ff6), (0x1e800, 0x1e8cf), (0x1e922, 0x1e943),
  (0x1e94b, 0x1eebb)]

def arabicDigits : List (Nat × Nat) :=
  [(0x660, 0x669), (0x66b, 0x66c), (0x10d30, 0x10d39), (0x10e60, 0x10e7e)]

/-- Digits that are read from left to right in either direction. -/
def europeanDigits : List (Nat × Nat) :=
  [(0x30, 0x39), (0x6f0, 0x6f9), (0x102e1, 0x102fb)]

def neutral : List (Nat × Nat) :=
  [(0x0, 0x8), (0xe, 0x1b), (0x21, 0x2f), (0x3a, 0x60), (0x7b, 0xa9), (0xab, 0xb1), (0xb4, 0xb4),
  (0xb6, 0xb8), (0xbb, 0xd7), (0xf7, 0xf7), (0x2b9, 0x2ba), (0x2c2, 0x2cf), (0x2d2, 0x2df),
  (0x2e5, 0x2ed), (0x2ef, 0x2ff), (0x374, 0x375), (0x37e, 0x387), (0x3f6, 0x3f6), (0x58a, 0x58f),
  (0x606, 0x607), (0x609, 0x60a), (0x60c, 0x60c), (0x60e, 0x60f), (0x66a, 0x66a), (0x6de, 0x6de),
  (0x6e9, 0x6e9), (0x7f6, 0x7f9), (0x9f2, 0x9f3), (0x9fb, 0x9fb), (0xaf1, 0xaf1), (0xbf3, 0xbfa),
  (0xc78, 0xc7e), (0xe3f, 0xe3f), (0xf3a, 0xf3d), (0x1390, 0x1399), (0x1400, 0x1400),
  (0x169b, 0x169c), (0x17db, 0x17db), (0x17f0, 0x180a), (0x1940, 0x1945), (0x19de, 0x19ff),
  (0x1fbd, 0x1fbd), (0x1fbf, 0x1fc1), (0x1fcd, 0x1fcf), (0x1fdd, 0x1fdf), (0x1fed, 0x1fef),
  (0x1ffd, 0x1ffe), (0x200c, 0x205e), (0x207a, 0x207e), (0x208a, 0x208e), (0x20a0, 0x20c1),
  (0x2100, 0x2101), (0x2103, 0x2106), (0x2108, 0x2109), (0x2114, 0x2114), (0x2116, 0x2118),
  (0x211e, 0x2123), (0x2125, 0x2127), (0x2129, 0x2129), (0x212e, 0x212e), (0x213a, 0x213b),
  (0x2140, 0x2144), (0x214a, 0x214d), (0x2150, 0x215f), (0x2189, 0x2335), (0x237b, 0x2394),
  (0x2396, 0x2487), (0x24ea, 0x26ab), (0x26ad, 0x27ff), (0x2900, 0x2bff), (0x2ce5, 0x2cea),
  (0x2cf9, 0x2cff), (0x2e00, 0x2fd5), (0x3001, 0x3004), (0x3008, 0x3020), (0x3030, 0x3030),
  (0x3036, 0x3037), (0x303d, 0x303f), (0x309b, 0x309c), (0x30a0, 0x30a0), (0x30fb, 0x30fb),
  (0x31c0, 0x31e5), (0x321d, 0x321e), (0x3250, 0x325f), (0x327c, 0x327e), (0x32b1, 0x32bf),
  (0x32cc, 0x32cf), (0x3377, 0x337a), (0x33de, 0x33df), (0x33ff, 0x33ff), (0x4dc0, 0x4dff),
  (0xa490, 0xa4c6), (0xa60d, 0xa60f), (0xa673, 0xa673), (0xa67e, 0xa67f), (0xa700, 0xa721),
  (0xa788, 0xa788), (0xa828, 0xa82b), (0xa838, 0xa839), (0xa874, 0xa877), (0xab6a, 0xab6b),
  (0xfb29, 0xfb29), (0xfd3e, 0xfd4f), (0xfdcf, 0xfdcf), (0xfdfd, 0xfe18), (0xfe31, 0xfe6b),
  (0xff01, 0xff0f), (0xff1a, 0xff40), (0xff5b, 0xff65), (0xffe0, 0xffee), (0x10101, 0x10101),
  (0x10140, 0x1018c), (0x10190, 0x101a0), (0x1091f, 0x1091f), (0x10b39, 0x10b3f),
  (0x11052, 0x11065), (0x11660, 0x1166c), (0x11fd5, 0x11ff1), (0x16fe2, 0x16fe2),
  (0x1cc00, 0x1ccd5), (0x1ccfa, 0x1cef0), (0x1d1e9, 0x1d241), (0x1d245, 0x1d245),
  (0x1d300, 0x1d356), (0x1d6db, 0x1d6db), (0x1d715, 0x1d715), (0x1d74f, 0x1d74f),
  (0x1d789, 0x1d789), (0x1d7c3, 0x1d7c3), (0x1e2ff, 0x1e2ff), (0x1eef0, 0x1f0f5),
  (0x1f10b, 0x1f10f), (0x1f12f, 0x1f12f), (0x1f16a, 0x1f16f), (0x1f1ad, 0x1f1ad),
  (0x1f260, 0x1fbef), (0x1fbfa, 0x1fbfa)]

end MediaNaming.Property
