/-!
The general category of every code point, Unicode 14.0, in the grain this library needs: the three
cased categories are one class, and so are all the categories that are never shown. The table lists
where a class begins; it ends where the next entry begins. `classOf` reads it.
-/

namespace TitleSieve.Text

inductive CharClass where
  | cased
  | modifier
  | caseless
  | nonspacing
  | enclosing
  | combining
  | decimal
  | letterlike
  | numeral
  | connector
  | accent
  | format
  | space
  | visible
  | hidden
  deriving DecidableEq, Repr

private def classBlockA : List (Nat × CharClass) :=
  [(0x0, .hidden), (0x20, .space), (0x21, .visible), (0x30, .decimal), (0x3a, .visible),
   (0x41, .cased), (0x5b, .visible), (0x5e, .accent), (0x5f, .connector), (0x60, .accent),
   (0x61, .cased), (0x7b, .visible), (0x7f, .hidden), (0xa0, .space), (0xa1, .visible),
   (0xa8, .accent), (0xa9, .visible), (0xaa, .caseless), (0xab, .visible), (0xad, .format),
   (0xae, .visible), (0xaf, .accent), (0xb0, .visible), (0xb2, .numeral), (0xb4, .accent),
   (0xb5, .cased), (0xb6, .visible), (0xb8, .accent), (0xb9, .numeral), (0xba, .caseless),
   (0xbb, .visible), (0xbc, .numeral), (0xbf, .visible), (0xc0, .cased), (0xd7, .visible),
   (0xd8, .cased), (0xf7, .visible), (0xf8, .cased), (0x1bb, .caseless), (0x1bc, .cased),
   (0x1c0, .caseless), (0x1c4, .cased), (0x294, .caseless), (0x295, .cased), (0x2b0, .modifier),
   (0x2c2, .accent), (0x2c6, .modifier), (0x2d2, .accent), (0x2e0, .modifier), (0x2e5, .accent),
   (0x2ec, .modifier), (0x2ed, .accent), (0x2ee, .modifier), (0x2ef, .accent),
   (0x300, .nonspacing), (0x370, .cased), (0x374, .modifier), (0x375, .accent), (0x376, .cased),
   (0x378, .hidden), (0x37a, .modifier), (0x37b, .cased), (0x37e, .visible), (0x37f, .cased),
   (0x380, .hidden), (0x384, .accent), (0x386, .cased), (0x387, .visible), (0x388, .cased),
   (0x38b, .hidden), (0x38c, .cased), (0x38d, .hidden), (0x38e, .cased), (0x3a2, .hidden),
   (0x3a3, .cased), (0x3f6, .visible), (0x3f7, .cased), (0x482, .visible), (0x483, .nonspacing),
   (0x488, .enclosing), (0x48a, .cased), (0x530, .hidden), (0x531, .cased), (0x557, .hidden),
   (0x559, .modifier), (0x55a, .visible), (0x560, .cased), (0x589, .visible), (0x58b, .hidden),
   (0x58d, .visible), (0x590, .hidden), (0x591, .nonspacing), (0x5be, .visible),
   (0x5bf, .nonspacing), (0x5c0, .visible), (0x5c1, .nonspacing), (0x5c3, .visible),
   (0x5c4, .nonspacing), (0x5c6, .visible), (0x5c7, .nonspacing), (0x5c8, .hidden),
   (0x5d0, .caseless), (0x5eb, .hidden), (0x5ef, .caseless), (0x5f3, .visible),
   (0x5f5, .hidden), (0x600, .format), (0x606, .visible), (0x610, .nonspacing),
   (0x61b, .visible), (0x61c, .format), (0x61d, .visible), (0x620, .caseless),
   (0x640, .modifier), (0x641, .caseless), (0x64b, .nonspacing), (0x660, .decimal),
   (0x66a, .visible), (0x66e, .caseless), (0x670, .nonspacing), (0x671, .caseless),
   (0x6d4, .visible), (0x6d5, .caseless), (0x6d6, .nonspacing), (0x6dd, .format),
   (0x6de, .visible), (0x6df, .nonspacing), (0x6e5, .modifier), (0x6e7, .nonspacing),
   (0x6e9, .visible), (0x6ea, .nonspacing), (0x6ee, .caseless), (0x6f0, .decimal),
   (0x6fa, .caseless), (0x6fd, .visible), (0x6ff, .caseless), (0x700, .visible),
   (0x70e, .hidden), (0x70f, .format), (0x710, .caseless), (0x711, .nonspacing),
   (0x712, .caseless), (0x730, .nonspacing), (0x74b, .hidden), (0x74d, .caseless),
   (0x7a6, .nonspacing), (0x7b1, .caseless), (0x7b2, .hidden), (0x7c0, .decimal),
   (0x7ca, .caseless), (0x7eb, .nonspacing), (0x7f4, .modifier), (0x7f6, .visible),
   (0x7fa, .modifier), (0x7fb, .hidden), (0x7fd, .nonspacing), (0x7fe, .visible),
   (0x800, .caseless), (0x816, .nonspacing), (0x81a, .modifier), (0x81b, .nonspacing),
   (0x824, .modifier), (0x825, .nonspacing), (0x828, .modifier), (0x829, .nonspacing),
   (0x82e, .hidden), (0x830, .visible), (0x83f, .hidden), (0x840, .caseless),
   (0x859, .nonspacing), (0x85c, .hidden), (0x85e, .visible), (0x85f, .hidden),
   (0x860, .caseless), (0x86b, .hidden), (0x870, .caseless), (0x888, .accent),
   (0x889, .caseless), (0x88f, .hidden), (0x890, .format), (0x892, .hidden),
   (0x898, .nonspacing), (0x8a0, .caseless), (0x8c9, .modifier), (0x8ca, .nonspacing),
   (0x8e2, .format), (0x8e3, .nonspacing), (0x903, .combining), (0x904, .caseless),
   (0x93a, .nonspacing), (0x93b, .combining), (0x93c, .nonspacing), (0x93d, .caseless),
   (0x93e, .combining), (0x941, .nonspacing), (0x949, .combining), (0x94d, .nonspacing),
   (0x94e, .combining), (0x950, .caseless), (0x951, .nonspacing), (0x958, .caseless),
   (0x962, .nonspacing), (0x964, .visible), (0x966, .decimal), (0x970, .visible),
   (0x971, .modifier), (0x972, .caseless), (0x981, .nonspacing), (0x982, .combining),
   (0x984, .hidden), (0x985, .caseless), (0x98d, .hidden), (0x98f, .caseless), (0x991, .hidden),
   (0x993, .caseless), (0x9a9, .hidden), (0x9aa, .caseless), (0x9b1, .hidden),
   (0x9b2, .caseless), (0x9b3, .hidden), (0x9b6, .caseless), (0x9ba, .hidden),
   (0x9bc, .nonspacing), (0x9bd, .caseless), (0x9be, .combining), (0x9c1, .nonspacing),
   (0x9c5, .hidden), (0x9c7, .combining), (0x9c9, .hidden), (0x9cb, .combining),
   (0x9cd, .nonspacing), (0x9ce, .caseless), (0x9cf, .hidden), (0x9d7, .combining),
   (0x9d8, .hidden), (0x9dc, .caseless), (0x9de, .hidden), (0x9df, .caseless),
   (0x9e2, .nonspacing), (0x9e4, .hidden), (0x9e6, .decimal), (0x9f0, .caseless),
   (0x9f2, .visible), (0x9f4, .numeral), (0x9fa, .visible), (0x9fc, .caseless),
   (0x9fd, .visible), (0x9fe, .nonspacing), (0x9ff, .hidden), (0xa01, .nonspacing),
   (0xa03, .combining), (0xa04, .hidden), (0xa05, .caseless), (0xa0b, .hidden),
   (0xa0f, .caseless), (0xa11, .hidden), (0xa13, .caseless), (0xa29, .hidden),
   (0xa2a, .caseless), (0xa31, .hidden), (0xa32, .caseless), (0xa34, .hidden),
   (0xa35, .caseless), (0xa37, .hidden), (0xa38, .caseless), (0xa3a, .hidden),
   (0xa3c, .nonspacing), (0xa3d, .hidden), (0xa3e, .combining), (0xa41, .nonspacing),
   (0xa43, .hidden), (0xa47, .nonspacing), (0xa49, .hidden), (0xa4b, .nonspacing),
   (0xa4e, .hidden), (0xa51, .nonspacing), (0xa52, .hidden), (0xa59, .caseless),
   (0xa5d, .hidden), (0xa5e, .caseless), (0xa5f, .hidden), (0xa66, .decimal),
   (0xa70, .nonspacing), (0xa72, .caseless), (0xa75, .nonspacing), (0xa76, .visible),
   (0xa77, .hidden), (0xa81, .nonspacing), (0xa83, .combining), (0xa84, .hidden),
   (0xa85, .caseless), (0xa8e, .hidden), (0xa8f, .caseless), (0xa92, .hidden),
   (0xa93, .caseless), (0xaa9, .hidden), (0xaaa, .caseless), (0xab1, .hidden),
   (0xab2, .caseless), (0xab4, .hidden), (0xab5, .caseless), (0xaba, .hidden),
   (0xabc, .nonspacing), (0xabd, .caseless), (0xabe, .combining), (0xac1, .nonspacing),
   (0xac6, .hidden), (0xac7, .nonspacing), (0xac9, .combining), (0xaca, .hidden),
   (0xacb, .combining), (0xacd, .nonspacing), (0xace, .hidden), (0xad0, .caseless),
   (0xad1, .hidden), (0xae0, .caseless), (0xae2, .nonspacing), (0xae4, .hidden),
   (0xae6, .decimal), (0xaf0, .visible), (0xaf2, .hidden), (0xaf9, .caseless),
   (0xafa, .nonspacing), (0xb00, .hidden), (0xb01, .nonspacing), (0xb02, .combining),
   (0xb04, .hidden), (0xb05, .caseless), (0xb0d, .hidden), (0xb0f, .caseless), (0xb11, .hidden),
   (0xb13, .caseless), (0xb29, .hidden), (0xb2a, .caseless), (0xb31, .hidden),
   (0xb32, .caseless), (0xb34, .hidden), (0xb35, .caseless), (0xb3a, .hidden),
   (0xb3c, .nonspacing), (0xb3d, .caseless), (0xb3e, .combining), (0xb3f, .nonspacing),
   (0xb40, .combining), (0xb41, .nonspacing), (0xb45, .hidden), (0xb47, .combining),
   (0xb49, .hidden), (0xb4b, .combining), (0xb4d, .nonspacing)]

private def classBlockB : List (Nat × CharClass) :=
  [(0xb4e, .hidden), (0xb55, .nonspacing), (0xb57, .combining), (0xb58, .hidden),
   (0xb5c, .caseless), (0xb5e, .hidden), (0xb5f, .caseless), (0xb62, .nonspacing),
   (0xb64, .hidden), (0xb66, .decimal), (0xb70, .visible), (0xb71, .caseless),
   (0xb72, .numeral), (0xb78, .hidden), (0xb82, .nonspacing), (0xb83, .caseless),
   (0xb84, .hidden), (0xb85, .caseless), (0xb8b, .hidden), (0xb8e, .caseless), (0xb91, .hidden),
   (0xb92, .caseless), (0xb96, .hidden), (0xb99, .caseless), (0xb9b, .hidden),
   (0xb9c, .caseless), (0xb9d, .hidden), (0xb9e, .caseless), (0xba0, .hidden),
   (0xba3, .caseless), (0xba5, .hidden), (0xba8, .caseless), (0xbab, .hidden),
   (0xbae, .caseless), (0xbba, .hidden), (0xbbe, .combining), (0xbc0, .nonspacing),
   (0xbc1, .combining), (0xbc3, .hidden), (0xbc6, .combining), (0xbc9, .hidden),
   (0xbca, .combining), (0xbcd, .nonspacing), (0xbce, .hidden), (0xbd0, .caseless),
   (0xbd1, .hidden), (0xbd7, .combining), (0xbd8, .hidden), (0xbe6, .decimal),
   (0xbf0, .numeral), (0xbf3, .visible), (0xbfb, .hidden), (0xc00, .nonspacing),
   (0xc01, .combining), (0xc04, .nonspacing), (0xc05, .caseless), (0xc0d, .hidden),
   (0xc0e, .caseless), (0xc11, .hidden), (0xc12, .caseless), (0xc29, .hidden),
   (0xc2a, .caseless), (0xc3a, .hidden), (0xc3c, .nonspacing), (0xc3d, .caseless),
   (0xc3e, .nonspacing), (0xc41, .combining), (0xc45, .hidden), (0xc46, .nonspacing),
   (0xc49, .hidden), (0xc4a, .nonspacing), (0xc4e, .hidden), (0xc55, .nonspacing),
   (0xc57, .hidden), (0xc58, .caseless), (0xc5b, .hidden), (0xc5d, .caseless), (0xc5e, .hidden),
   (0xc60, .caseless), (0xc62, .nonspacing), (0xc64, .hidden), (0xc66, .decimal),
   (0xc70, .hidden), (0xc77, .visible), (0xc78, .numeral), (0xc7f, .visible),
   (0xc80, .caseless), (0xc81, .nonspacing), (0xc82, .combining), (0xc84, .visible),
   (0xc85, .caseless), (0xc8d, .hidden), (0xc8e, .caseless), (0xc91, .hidden),
   (0xc92, .caseless), (0xca9, .hidden), (0xcaa, .caseless), (0xcb4, .hidden),
   (0xcb5, .caseless), (0xcba, .hidden), (0xcbc, .nonspacing), (0xcbd, .caseless),
   (0xcbe, .combining), (0xcbf, .nonspacing), (0xcc0, .combining), (0xcc5, .hidden),
   (0xcc6, .nonspacing), (0xcc7, .combining), (0xcc9, .hidden), (0xcca, .combining),
   (0xccc, .nonspacing), (0xcce, .hidden), (0xcd5, .combining), (0xcd7, .hidden),
   (0xcdd, .caseless), (0xcdf, .hidden), (0xce0, .caseless), (0xce2, .nonspacing),
   (0xce4, .hidden), (0xce6, .decimal), (0xcf0, .hidden), (0xcf1, .caseless), (0xcf3, .hidden),
   (0xd00, .nonspacing), (0xd02, .combining), (0xd04, .caseless), (0xd0d, .hidden),
   (0xd0e, .caseless), (0xd11, .hidden), (0xd12, .caseless), (0xd3b, .nonspacing),
   (0xd3d, .caseless), (0xd3e, .combining), (0xd41, .nonspacing), (0xd45, .hidden),
   (0xd46, .combining), (0xd49, .hidden), (0xd4a, .combining), (0xd4d, .nonspacing),
   (0xd4e, .caseless), (0xd4f, .visible), (0xd50, .hidden), (0xd54, .caseless),
   (0xd57, .combining), (0xd58, .numeral), (0xd5f, .caseless), (0xd62, .nonspacing),
   (0xd64, .hidden), (0xd66, .decimal), (0xd70, .numeral), (0xd79, .visible),
   (0xd7a, .caseless), (0xd80, .hidden), (0xd81, .nonspacing), (0xd82, .combining),
   (0xd84, .hidden), (0xd85, .caseless), (0xd97, .hidden), (0xd9a, .caseless), (0xdb2, .hidden),
   (0xdb3, .caseless), (0xdbc, .hidden), (0xdbd, .caseless), (0xdbe, .hidden),
   (0xdc0, .caseless), (0xdc7, .hidden), (0xdca, .nonspacing), (0xdcb, .hidden),
   (0xdcf, .combining), (0xdd2, .nonspacing), (0xdd5, .hidden), (0xdd6, .nonspacing),
   (0xdd7, .hidden), (0xdd8, .combining), (0xde0, .hidden), (0xde6, .decimal), (0xdf0, .hidden),
   (0xdf2, .combining), (0xdf4, .visible), (0xdf5, .hidden), (0xe01, .caseless),
   (0xe31, .nonspacing), (0xe32, .caseless), (0xe34, .nonspacing), (0xe3b, .hidden),
   (0xe3f, .visible), (0xe40, .caseless), (0xe46, .modifier), (0xe47, .nonspacing),
   (0xe4f, .visible), (0xe50, .decimal), (0xe5a, .visible), (0xe5c, .hidden),
   (0xe81, .caseless), (0xe83, .hidden), (0xe84, .caseless), (0xe85, .hidden),
   (0xe86, .caseless), (0xe8b, .hidden), (0xe8c, .caseless), (0xea4, .hidden),
   (0xea5, .caseless), (0xea6, .hidden), (0xea7, .caseless), (0xeb1, .nonspacing),
   (0xeb2, .caseless), (0xeb4, .nonspacing), (0xebd, .caseless), (0xebe, .hidden),
   (0xec0, .caseless), (0xec5, .hidden), (0xec6, .modifier), (0xec7, .hidden),
   (0xec8, .nonspacing), (0xece, .hidden), (0xed0, .decimal), (0xeda, .hidden),
   (0xedc, .caseless), (0xee0, .hidden), (0xf00, .caseless), (0xf01, .visible),
   (0xf18, .nonspacing), (0xf1a, .visible), (0xf20, .decimal), (0xf2a, .numeral),
   (0xf34, .visible), (0xf35, .nonspacing), (0xf36, .visible), (0xf37, .nonspacing),
   (0xf38, .visible), (0xf39, .nonspacing), (0xf3a, .visible), (0xf3e, .combining),
   (0xf40, .caseless), (0xf48, .hidden), (0xf49, .caseless), (0xf6d, .hidden),
   (0xf71, .nonspacing), (0xf7f, .combining), (0xf80, .nonspacing), (0xf85, .visible),
   (0xf86, .nonspacing), (0xf88, .caseless), (0xf8d, .nonspacing), (0xf98, .hidden),
   (0xf99, .nonspacing), (0xfbd, .hidden), (0xfbe, .visible), (0xfc6, .nonspacing),
   (0xfc7, .visible), (0xfcd, .hidden), (0xfce, .visible), (0xfdb, .hidden),
   (0x1000, .caseless), (0x102b, .combining), (0x102d, .nonspacing), (0x1031, .combining),
   (0x1032, .nonspacing), (0x1038, .combining), (0x1039, .nonspacing), (0x103b, .combining),
   (0x103d, .nonspacing), (0x103f, .caseless), (0x1040, .decimal), (0x104a, .visible),
   (0x1050, .caseless), (0x1056, .combining), (0x1058, .nonspacing), (0x105a, .caseless),
   (0x105e, .nonspacing), (0x1061, .caseless), (0x1062, .combining), (0x1065, .caseless),
   (0x1067, .combining), (0x106e, .caseless), (0x1071, .nonspacing), (0x1075, .caseless),
   (0x1082, .nonspacing), (0x1083, .combining), (0x1085, .nonspacing), (0x1087, .combining),
   (0x108d, .nonspacing), (0x108e, .caseless), (0x108f, .combining), (0x1090, .decimal),
   (0x109a, .combining), (0x109d, .nonspacing), (0x109e, .visible), (0x10a0, .cased),
   (0x10c6, .hidden), (0x10c7, .cased), (0x10c8, .hidden), (0x10cd, .cased), (0x10ce, .hidden),
   (0x10d0, .cased), (0x10fb, .visible), (0x10fc, .modifier), (0x10fd, .cased),
   (0x1100, .caseless), (0x1249, .hidden), (0x124a, .caseless), (0x124e, .hidden),
   (0x1250, .caseless), (0x1257, .hidden), (0x1258, .caseless), (0x1259, .hidden),
   (0x125a, .caseless), (0x125e, .hidden), (0x1260, .caseless), (0x1289, .hidden),
   (0x128a, .caseless), (0x128e, .hidden), (0x1290, .caseless), (0x12b1, .hidden),
   (0x12b2, .caseless), (0x12b6, .hidden), (0x12b8, .caseless), (0x12bf, .hidden),
   (0x12c0, .caseless), (0x12c1, .hidden), (0x12c2, .caseless), (0x12c6, .hidden),
   (0x12c8, .caseless), (0x12d7, .hidden), (0x12d8, .caseless), (0x1311, .hidden),
   (0x1312, .caseless), (0x1316, .hidden), (0x1318, .caseless), (0x135b, .hidden),
   (0x135d, .nonspacing), (0x1360, .visible), (0x1369, .numeral), (0x137d, .hidden),
   (0x1380, .caseless), (0x1390, .visible), (0x139a, .hidden), (0x13a0, .cased),
   (0x13f6, .hidden), (0x13f8, .cased), (0x13fe, .hidden), (0x1400, .visible),
   (0x1401, .caseless), (0x166d, .visible), (0x166f, .caseless), (0x1680, .space),
   (0x1681, .caseless), (0x169b, .visible), (0x169d, .hidden), (0x16a0, .caseless)]

private def classBlockC : List (Nat × CharClass) :=
  [(0x16eb, .visible), (0x16ee, .letterlike), (0x16f1, .caseless), (0x16f9, .hidden),
   (0x1700, .caseless), (0x1712, .nonspacing), (0x1715, .combining), (0x1716, .hidden),
   (0x171f, .caseless), (0x1732, .nonspacing), (0x1734, .combining), (0x1735, .visible),
   (0x1737, .hidden), (0x1740, .caseless), (0x1752, .nonspacing), (0x1754, .hidden),
   (0x1760, .caseless), (0x176d, .hidden), (0x176e, .caseless), (0x1771, .hidden),
   (0x1772, .nonspacing), (0x1774, .hidden), (0x1780, .caseless), (0x17b4, .nonspacing),
   (0x17b6, .combining), (0x17b7, .nonspacing), (0x17be, .combining), (0x17c6, .nonspacing),
   (0x17c7, .combining), (0x17c9, .nonspacing), (0x17d4, .visible), (0x17d7, .modifier),
   (0x17d8, .visible), (0x17dc, .caseless), (0x17dd, .nonspacing), (0x17de, .hidden),
   (0x17e0, .decimal), (0x17ea, .hidden), (0x17f0, .numeral), (0x17fa, .hidden),
   (0x1800, .visible), (0x180b, .nonspacing), (0x180e, .format), (0x180f, .nonspacing),
   (0x1810, .decimal), (0x181a, .hidden), (0x1820, .caseless), (0x1843, .modifier),
   (0x1844, .caseless), (0x1879, .hidden), (0x1880, .caseless), (0x1885, .nonspacing),
   (0x1887, .caseless), (0x18a9, .nonspacing), (0x18aa, .caseless), (0x18ab, .hidden),
   (0x18b0, .caseless), (0x18f6, .hidden), (0x1900, .caseless), (0x191f, .hidden),
   (0x1920, .nonspacing), (0x1923, .combining), (0x1927, .nonspacing), (0x1929, .combining),
   (0x192c, .hidden), (0x1930, .combining), (0x1932, .nonspacing), (0x1933, .combining),
   (0x1939, .nonspacing), (0x193c, .hidden), (0x1940, .visible), (0x1941, .hidden),
   (0x1944, .visible), (0x1946, .decimal), (0x1950, .caseless), (0x196e, .hidden),
   (0x1970, .caseless), (0x1975, .hidden), (0x1980, .caseless), (0x19ac, .hidden),
   (0x19b0, .caseless), (0x19ca, .hidden), (0x19d0, .decimal), (0x19da, .numeral),
   (0x19db, .hidden), (0x19de, .visible), (0x1a00, .caseless), (0x1a17, .nonspacing),
   (0x1a19, .combining), (0x1a1b, .nonspacing), (0x1a1c, .hidden), (0x1a1e, .visible),
   (0x1a20, .caseless), (0x1a55, .combining), (0x1a56, .nonspacing), (0x1a57, .combining),
   (0x1a58, .nonspacing), (0x1a5f, .hidden), (0x1a60, .nonspacing), (0x1a61, .combining),
   (0x1a62, .nonspacing), (0x1a63, .combining), (0x1a65, .nonspacing), (0x1a6d, .combining),
   (0x1a73, .nonspacing), (0x1a7d, .hidden), (0x1a7f, .nonspacing), (0x1a80, .decimal),
   (0x1a8a, .hidden), (0x1a90, .decimal), (0x1a9a, .hidden), (0x1aa0, .visible),
   (0x1aa7, .modifier), (0x1aa8, .visible), (0x1aae, .hidden), (0x1ab0, .nonspacing),
   (0x1abe, .enclosing), (0x1abf, .nonspacing), (0x1acf, .hidden), (0x1b00, .nonspacing),
   (0x1b04, .combining), (0x1b05, .caseless), (0x1b34, .nonspacing), (0x1b35, .combining),
   (0x1b36, .nonspacing), (0x1b3b, .combining), (0x1b3c, .nonspacing), (0x1b3d, .combining),
   (0x1b42, .nonspacing), (0x1b43, .combining), (0x1b45, .caseless), (0x1b4d, .hidden),
   (0x1b50, .decimal), (0x1b5a, .visible), (0x1b6b, .nonspacing), (0x1b74, .visible),
   (0x1b7f, .hidden), (0x1b80, .nonspacing), (0x1b82, .combining), (0x1b83, .caseless),
   (0x1ba1, .combining), (0x1ba2, .nonspacing), (0x1ba6, .combining), (0x1ba8, .nonspacing),
   (0x1baa, .combining), (0x1bab, .nonspacing), (0x1bae, .caseless), (0x1bb0, .decimal),
   (0x1bba, .caseless), (0x1be6, .nonspacing), (0x1be7, .combining), (0x1be8, .nonspacing),
   (0x1bea, .combining), (0x1bed, .nonspacing), (0x1bee, .combining), (0x1bef, .nonspacing),
   (0x1bf2, .combining), (0x1bf4, .hidden), (0x1bfc, .visible), (0x1c00, .caseless),
   (0x1c24, .combining), (0x1c2c, .nonspacing), (0x1c34, .combining), (0x1c36, .nonspacing),
   (0x1c38, .hidden), (0x1c3b, .visible), (0x1c40, .decimal), (0x1c4a, .hidden),
   (0x1c4d, .caseless), (0x1c50, .decimal), (0x1c5a, .caseless), (0x1c78, .modifier),
   (0x1c7e, .visible), (0x1c80, .cased), (0x1c89, .hidden), (0x1c90, .cased), (0x1cbb, .hidden),
   (0x1cbd, .cased), (0x1cc0, .visible), (0x1cc8, .hidden), (0x1cd0, .nonspacing),
   (0x1cd3, .visible), (0x1cd4, .nonspacing), (0x1ce1, .combining), (0x1ce2, .nonspacing),
   (0x1ce9, .caseless), (0x1ced, .nonspacing), (0x1cee, .caseless), (0x1cf4, .nonspacing),
   (0x1cf5, .caseless), (0x1cf7, .combining), (0x1cf8, .nonspacing), (0x1cfa, .caseless),
   (0x1cfb, .hidden), (0x1d00, .cased), (0x1d2c, .modifier), (0x1d6b, .cased),
   (0x1d78, .modifier), (0x1d79, .cased), (0x1d9b, .modifier), (0x1dc0, .nonspacing),
   (0x1e00, .cased), (0x1f16, .hidden), (0x1f18, .cased), (0x1f1e, .hidden), (0x1f20, .cased),
   (0x1f46, .hidden), (0x1f48, .cased), (0x1f4e, .hidden), (0x1f50, .cased), (0x1f58, .hidden),
   (0x1f59, .cased), (0x1f5a, .hidden), (0x1f5b, .cased), (0x1f5c, .hidden), (0x1f5d, .cased),
   (0x1f5e, .hidden), (0x1f5f, .cased), (0x1f7e, .hidden), (0x1f80, .cased), (0x1fb5, .hidden),
   (0x1fb6, .cased), (0x1fbd, .accent), (0x1fbe, .cased), (0x1fbf, .accent), (0x1fc2, .cased),
   (0x1fc5, .hidden), (0x1fc6, .cased), (0x1fcd, .accent), (0x1fd0, .cased), (0x1fd4, .hidden),
   (0x1fd6, .cased), (0x1fdc, .hidden), (0x1fdd, .accent), (0x1fe0, .cased), (0x1fed, .accent),
   (0x1ff0, .hidden), (0x1ff2, .cased), (0x1ff5, .hidden), (0x1ff6, .cased), (0x1ffd, .accent),
   (0x1fff, .hidden), (0x2000, .space), (0x200b, .format), (0x2010, .visible),
   (0x2028, .hidden), (0x202a, .format), (0x202f, .space), (0x2030, .visible),
   (0x203f, .connector), (0x2041, .visible), (0x2054, .connector), (0x2055, .visible),
   (0x205f, .space), (0x2060, .format), (0x2065, .hidden), (0x2066, .format),
   (0x2070, .numeral), (0x2071, .modifier), (0x2072, .hidden), (0x2074, .numeral),
   (0x207a, .visible), (0x207f, .modifier), (0x2080, .numeral), (0x208a, .visible),
   (0x208f, .hidden), (0x2090, .modifier), (0x209d, .hidden), (0x20a0, .visible),
   (0x20c1, .hidden), (0x20d0, .nonspacing), (0x20dd, .enclosing), (0x20e1, .nonspacing),
   (0x20e2, .enclosing), (0x20e5, .nonspacing), (0x20f1, .hidden), (0x2100, .visible),
   (0x2102, .cased), (0x2103, .visible), (0x2107, .cased), (0x2108, .visible), (0x210a, .cased),
   (0x2114, .visible), (0x2115, .cased), (0x2116, .visible), (0x2119, .cased),
   (0x211e, .visible), (0x2124, .cased), (0x2125, .visible), (0x2126, .cased),
   (0x2127, .visible), (0x2128, .cased), (0x2129, .visible), (0x212a, .cased),
   (0x212e, .visible), (0x212f, .cased), (0x2135, .caseless), (0x2139, .cased),
   (0x213a, .visible), (0x213c, .cased), (0x2140, .visible), (0x2145, .cased),
   (0x214a, .visible), (0x214e, .cased), (0x214f, .visible), (0x2150, .numeral),
   (0x2160, .letterlike), (0x2183, .cased), (0x2185, .letterlike), (0x2189, .numeral),
   (0x218a, .visible), (0x218c, .hidden), (0x2190, .visible), (0x2427, .hidden),
   (0x2440, .visible), (0x244b, .hidden), (0x2460, .numeral), (0x249c, .visible),
   (0x24ea, .numeral), (0x2500, .visible), (0x2776, .numeral), (0x2794, .visible),
   (0x2b74, .hidden), (0x2b76, .visible), (0x2b96, .hidden), (0x2b97, .visible),
   (0x2c00, .cased), (0x2c7c, .modifier), (0x2c7e, .cased), (0x2ce5, .visible),
   (0x2ceb, .cased), (0x2cef, .nonspacing), (0x2cf2, .cased), (0x2cf4, .hidden),
   (0x2cf9, .visible), (0x2cfd, .numeral), (0x2cfe, .visible), (0x2d00, .cased),
   (0x2d26, .hidden), (0x2d27, .cased), (0x2d28, .hidden), (0x2d2d, .cased), (0x2d2e, .hidden),
   (0x2d30, .caseless), (0x2d68, .hidden), (0x2d6f, .modifier), (0x2d70, .visible),
   (0x2d71, .hidden), (0x2d7f, .nonspacing), (0x2d80, .caseless)]

private def classBlockD : List (Nat × CharClass) :=
  [(0x2d97, .hidden), (0x2da0, .caseless), (0x2da7, .hidden), (0x2da8, .caseless),
   (0x2daf, .hidden), (0x2db0, .caseless), (0x2db7, .hidden), (0x2db8, .caseless),
   (0x2dbf, .hidden), (0x2dc0, .caseless), (0x2dc7, .hidden), (0x2dc8, .caseless),
   (0x2dcf, .hidden), (0x2dd0, .caseless), (0x2dd7, .hidden), (0x2dd8, .caseless),
   (0x2ddf, .hidden), (0x2de0, .nonspacing), (0x2e00, .visible), (0x2e2f, .modifier),
   (0x2e30, .visible), (0x2e5e, .hidden), (0x2e80, .visible), (0x2e9a, .hidden),
   (0x2e9b, .visible), (0x2ef4, .hidden), (0x2f00, .visible), (0x2fd6, .hidden),
   (0x2ff0, .visible), (0x2ffc, .hidden), (0x3000, .space), (0x3001, .visible),
   (0x3005, .modifier), (0x3006, .caseless), (0x3007, .letterlike), (0x3008, .visible),
   (0x3021, .letterlike), (0x302a, .nonspacing), (0x302e, .combining), (0x3030, .visible),
   (0x3031, .modifier), (0x3036, .visible), (0x3038, .letterlike), (0x303b, .modifier),
   (0x303c, .caseless), (0x303d, .visible), (0x3040, .hidden), (0x3041, .caseless),
   (0x3097, .hidden), (0x3099, .nonspacing), (0x309b, .accent), (0x309d, .modifier),
   (0x309f, .caseless), (0x30a0, .visible), (0x30a1, .caseless), (0x30fb, .visible),
   (0x30fc, .modifier), (0x30ff, .caseless), (0x3100, .hidden), (0x3105, .caseless),
   (0x3130, .hidden), (0x3131, .caseless), (0x318f, .hidden), (0x3190, .visible),
   (0x3192, .numeral), (0x3196, .visible), (0x31a0, .caseless), (0x31c0, .visible),
   (0x31e4, .hidden), (0x31f0, .caseless), (0x3200, .visible), (0x321f, .hidden),
   (0x3220, .numeral), (0x322a, .visible), (0x3248, .numeral), (0x3250, .visible),
   (0x3251, .numeral), (0x3260, .visible), (0x3280, .numeral), (0x328a, .visible),
   (0x32b1, .numeral), (0x32c0, .visible), (0x3400, .caseless), (0x4dc0, .visible),
   (0x4e00, .caseless), (0xa015, .modifier), (0xa016, .caseless), (0xa48d, .hidden),
   (0xa490, .visible), (0xa4c7, .hidden), (0xa4d0, .caseless), (0xa4f8, .modifier),
   (0xa4fe, .visible), (0xa500, .caseless), (0xa60c, .modifier), (0xa60d, .visible),
   (0xa610, .caseless), (0xa620, .decimal), (0xa62a, .caseless), (0xa62c, .hidden),
   (0xa640, .cased), (0xa66e, .caseless), (0xa66f, .nonspacing), (0xa670, .enclosing),
   (0xa673, .visible), (0xa674, .nonspacing), (0xa67e, .visible), (0xa67f, .modifier),
   (0xa680, .cased), (0xa69c, .modifier), (0xa69e, .nonspacing), (0xa6a0, .caseless),
   (0xa6e6, .letterlike), (0xa6f0, .nonspacing), (0xa6f2, .visible), (0xa6f8, .hidden),
   (0xa700, .accent), (0xa717, .modifier), (0xa720, .accent), (0xa722, .cased),
   (0xa770, .modifier), (0xa771, .cased), (0xa788, .modifier), (0xa789, .accent),
   (0xa78b, .cased), (0xa78f, .caseless), (0xa790, .cased), (0xa7cb, .hidden), (0xa7d0, .cased),
   (0xa7d2, .hidden), (0xa7d3, .cased), (0xa7d4, .hidden), (0xa7d5, .cased), (0xa7da, .hidden),
   (0xa7f2, .modifier), (0xa7f5, .cased), (0xa7f7, .caseless), (0xa7f8, .modifier),
   (0xa7fa, .cased), (0xa7fb, .caseless), (0xa802, .nonspacing), (0xa803, .caseless),
   (0xa806, .nonspacing), (0xa807, .caseless), (0xa80b, .nonspacing), (0xa80c, .caseless),
   (0xa823, .combining), (0xa825, .nonspacing), (0xa827, .combining), (0xa828, .visible),
   (0xa82c, .nonspacing), (0xa82d, .hidden), (0xa830, .numeral), (0xa836, .visible),
   (0xa83a, .hidden), (0xa840, .caseless), (0xa874, .visible), (0xa878, .hidden),
   (0xa880, .combining), (0xa882, .caseless), (0xa8b4, .combining), (0xa8c4, .nonspacing),
   (0xa8c6, .hidden), (0xa8ce, .visible), (0xa8d0, .decimal), (0xa8da, .hidden),
   (0xa8e0, .nonspacing), (0xa8f2, .caseless), (0xa8f8, .visible), (0xa8fb, .caseless),
   (0xa8fc, .visible), (0xa8fd, .caseless), (0xa8ff, .nonspacing), (0xa900, .decimal),
   (0xa90a, .caseless), (0xa926, .nonspacing), (0xa92e, .visible), (0xa930, .caseless),
   (0xa947, .nonspacing), (0xa952, .combining), (0xa954, .hidden), (0xa95f, .visible),
   (0xa960, .caseless), (0xa97d, .hidden), (0xa980, .nonspacing), (0xa983, .combining),
   (0xa984, .caseless), (0xa9b3, .nonspacing), (0xa9b4, .combining), (0xa9b6, .nonspacing),
   (0xa9ba, .combining), (0xa9bc, .nonspacing), (0xa9be, .combining), (0xa9c1, .visible),
   (0xa9ce, .hidden), (0xa9cf, .modifier), (0xa9d0, .decimal), (0xa9da, .hidden),
   (0xa9de, .visible), (0xa9e0, .caseless), (0xa9e5, .nonspacing), (0xa9e6, .modifier),
   (0xa9e7, .caseless), (0xa9f0, .decimal), (0xa9fa, .caseless), (0xa9ff, .hidden),
   (0xaa00, .caseless), (0xaa29, .nonspacing), (0xaa2f, .combining), (0xaa31, .nonspacing),
   (0xaa33, .combining), (0xaa35, .nonspacing), (0xaa37, .hidden), (0xaa40, .caseless),
   (0xaa43, .nonspacing), (0xaa44, .caseless), (0xaa4c, .nonspacing), (0xaa4d, .combining),
   (0xaa4e, .hidden), (0xaa50, .decimal), (0xaa5a, .hidden), (0xaa5c, .visible),
   (0xaa60, .caseless), (0xaa70, .modifier), (0xaa71, .caseless), (0xaa77, .visible),
   (0xaa7a, .caseless), (0xaa7b, .combining), (0xaa7c, .nonspacing), (0xaa7d, .combining),
   (0xaa7e, .caseless), (0xaab0, .nonspacing), (0xaab1, .caseless), (0xaab2, .nonspacing),
   (0xaab5, .caseless), (0xaab7, .nonspacing), (0xaab9, .caseless), (0xaabe, .nonspacing),
   (0xaac0, .caseless), (0xaac1, .nonspacing), (0xaac2, .caseless), (0xaac3, .hidden),
   (0xaadb, .caseless), (0xaadd, .modifier), (0xaade, .visible), (0xaae0, .caseless),
   (0xaaeb, .combining), (0xaaec, .nonspacing), (0xaaee, .combining), (0xaaf0, .visible),
   (0xaaf2, .caseless), (0xaaf3, .modifier), (0xaaf5, .combining), (0xaaf6, .nonspacing),
   (0xaaf7, .hidden), (0xab01, .caseless), (0xab07, .hidden), (0xab09, .caseless),
   (0xab0f, .hidden), (0xab11, .caseless), (0xab17, .hidden), (0xab20, .caseless),
   (0xab27, .hidden), (0xab28, .caseless), (0xab2f, .hidden), (0xab30, .cased),
   (0xab5b, .accent), (0xab5c, .modifier), (0xab60, .cased), (0xab69, .modifier),
   (0xab6a, .accent), (0xab6c, .hidden), (0xab70, .cased), (0xabc0, .caseless),
   (0xabe3, .combining), (0xabe5, .nonspacing), (0xabe6, .combining), (0xabe8, .nonspacing),
   (0xabe9, .combining), (0xabeb, .visible), (0xabec, .combining), (0xabed, .nonspacing),
   (0xabee, .hidden), (0xabf0, .decimal), (0xabfa, .hidden), (0xac00, .caseless),
   (0xd7a4, .hidden), (0xd7b0, .caseless), (0xd7c7, .hidden), (0xd7cb, .caseless),
   (0xd7fc, .hidden), (0xf900, .caseless), (0xfa6e, .hidden), (0xfa70, .caseless),
   (0xfada, .hidden), (0xfb00, .cased), (0xfb07, .hidden), (0xfb13, .cased), (0xfb18, .hidden),
   (0xfb1d, .caseless), (0xfb1e, .nonspacing), (0xfb1f, .caseless), (0xfb29, .visible),
   (0xfb2a, .caseless), (0xfb37, .hidden), (0xfb38, .caseless), (0xfb3d, .hidden),
   (0xfb3e, .caseless), (0xfb3f, .hidden), (0xfb40, .caseless), (0xfb42, .hidden),
   (0xfb43, .caseless), (0xfb45, .hidden), (0xfb46, .caseless), (0xfbb2, .accent),
   (0xfbc3, .hidden), (0xfbd3, .caseless), (0xfd3e, .visible), (0xfd50, .caseless),
   (0xfd90, .hidden), (0xfd92, .caseless), (0xfdc8, .hidden), (0xfdcf, .visible),
   (0xfdd0, .hidden), (0xfdf0, .caseless), (0xfdfc, .visible), (0xfe00, .nonspacing),
   (0xfe10, .visible), (0xfe1a, .hidden), (0xfe20, .nonspacing), (0xfe30, .visible),
   (0xfe33, .connector), (0xfe35, .visible), (0xfe4d, .connector), (0xfe50, .visible),
   (0xfe53, .hidden), (0xfe54, .visible), (0xfe67, .hidden), (0xfe68, .visible),
   (0xfe6c, .hidden), (0xfe70, .caseless), (0xfe75, .hidden), (0xfe76, .caseless),
   (0xfefd, .hidden), (0xfeff, .format), (0xff00, .hidden), (0xff01, .visible),
   (0xff10, .decimal), (0xff1a, .visible), (0xff21, .cased)]

private def classBlockE : List (Nat × CharClass) :=
  [(0xff3b, .visible), (0xff3e, .accent), (0xff3f, .connector), (0xff40, .accent),
   (0xff41, .cased), (0xff5b, .visible), (0xff66, .caseless), (0xff70, .modifier),
   (0xff71, .caseless), (0xff9e, .modifier), (0xffa0, .caseless), (0xffbf, .hidden),
   (0xffc2, .caseless), (0xffc8, .hidden), (0xffca, .caseless), (0xffd0, .hidden),
   (0xffd2, .caseless), (0xffd8, .hidden), (0xffda, .caseless), (0xffdd, .hidden),
   (0xffe0, .visible), (0xffe3, .accent), (0xffe4, .visible), (0xffe7, .hidden),
   (0xffe8, .visible), (0xffef, .hidden), (0xfff9, .format), (0xfffc, .visible),
   (0xfffe, .hidden), (0x10000, .caseless), (0x1000c, .hidden), (0x1000d, .caseless),
   (0x10027, .hidden), (0x10028, .caseless), (0x1003b, .hidden), (0x1003c, .caseless),
   (0x1003e, .hidden), (0x1003f, .caseless), (0x1004e, .hidden), (0x10050, .caseless),
   (0x1005e, .hidden), (0x10080, .caseless), (0x100fb, .hidden), (0x10100, .visible),
   (0x10103, .hidden), (0x10107, .numeral), (0x10134, .hidden), (0x10137, .visible),
   (0x10140, .letterlike), (0x10175, .numeral), (0x10179, .visible), (0x1018a, .numeral),
   (0x1018c, .visible), (0x1018f, .hidden), (0x10190, .visible), (0x1019d, .hidden),
   (0x101a0, .visible), (0x101a1, .hidden), (0x101d0, .visible), (0x101fd, .nonspacing),
   (0x101fe, .hidden), (0x10280, .caseless), (0x1029d, .hidden), (0x102a0, .caseless),
   (0x102d1, .hidden), (0x102e0, .nonspacing), (0x102e1, .numeral), (0x102fc, .hidden),
   (0x10300, .caseless), (0x10320, .numeral), (0x10324, .hidden), (0x1032d, .caseless),
   (0x10341, .letterlike), (0x10342, .caseless), (0x1034a, .letterlike), (0x1034b, .hidden),
   (0x10350, .caseless), (0x10376, .nonspacing), (0x1037b, .hidden), (0x10380, .caseless),
   (0x1039e, .hidden), (0x1039f, .visible), (0x103a0, .caseless), (0x103c4, .hidden),
   (0x103c8, .caseless), (0x103d0, .visible), (0x103d1, .letterlike), (0x103d6, .hidden),
   (0x10400, .cased), (0x10450, .caseless), (0x1049e, .hidden), (0x104a0, .decimal),
   (0x104aa, .hidden), (0x104b0, .cased), (0x104d4, .hidden), (0x104d8, .cased),
   (0x104fc, .hidden), (0x10500, .caseless), (0x10528, .hidden), (0x10530, .caseless),
   (0x10564, .hidden), (0x1056f, .visible), (0x10570, .cased), (0x1057b, .hidden),
   (0x1057c, .cased), (0x1058b, .hidden), (0x1058c, .cased), (0x10593, .hidden),
   (0x10594, .cased), (0x10596, .hidden), (0x10597, .cased), (0x105a2, .hidden),
   (0x105a3, .cased), (0x105b2, .hidden), (0x105b3, .cased), (0x105ba, .hidden),
   (0x105bb, .cased), (0x105bd, .hidden), (0x10600, .caseless), (0x10737, .hidden),
   (0x10740, .caseless), (0x10756, .hidden), (0x10760, .caseless), (0x10768, .hidden),
   (0x10780, .modifier), (0x10786, .hidden), (0x10787, .modifier), (0x107b1, .hidden),
   (0x107b2, .modifier), (0x107bb, .hidden), (0x10800, .caseless), (0x10806, .hidden),
   (0x10808, .caseless), (0x10809, .hidden), (0x1080a, .caseless), (0x10836, .hidden),
   (0x10837, .caseless), (0x10839, .hidden), (0x1083c, .caseless), (0x1083d, .hidden),
   (0x1083f, .caseless), (0x10856, .hidden), (0x10857, .visible), (0x10858, .numeral),
   (0x10860, .caseless), (0x10877, .visible), (0x10879, .numeral), (0x10880, .caseless),
   (0x1089f, .hidden), (0x108a7, .numeral), (0x108b0, .hidden), (0x108e0, .caseless),
   (0x108f3, .hidden), (0x108f4, .caseless), (0x108f6, .hidden), (0x108fb, .numeral),
   (0x10900, .caseless), (0x10916, .numeral), (0x1091c, .hidden), (0x1091f, .visible),
   (0x10920, .caseless), (0x1093a, .hidden), (0x1093f, .visible), (0x10940, .hidden),
   (0x10980, .caseless), (0x109b8, .hidden), (0x109bc, .numeral), (0x109be, .caseless),
   (0x109c0, .numeral), (0x109d0, .hidden), (0x109d2, .numeral), (0x10a00, .caseless),
   (0x10a01, .nonspacing), (0x10a04, .hidden), (0x10a05, .nonspacing), (0x10a07, .hidden),
   (0x10a0c, .nonspacing), (0x10a10, .caseless), (0x10a14, .hidden), (0x10a15, .caseless),
   (0x10a18, .hidden), (0x10a19, .caseless), (0x10a36, .hidden), (0x10a38, .nonspacing),
   (0x10a3b, .hidden), (0x10a3f, .nonspacing), (0x10a40, .numeral), (0x10a49, .hidden),
   (0x10a50, .visible), (0x10a59, .hidden), (0x10a60, .caseless), (0x10a7d, .numeral),
   (0x10a7f, .visible), (0x10a80, .caseless), (0x10a9d, .numeral), (0x10aa0, .hidden),
   (0x10ac0, .caseless), (0x10ac8, .visible), (0x10ac9, .caseless), (0x10ae5, .nonspacing),
   (0x10ae7, .hidden), (0x10aeb, .numeral), (0x10af0, .visible), (0x10af7, .hidden),
   (0x10b00, .caseless), (0x10b36, .hidden), (0x10b39, .visible), (0x10b40, .caseless),
   (0x10b56, .hidden), (0x10b58, .numeral), (0x10b60, .caseless), (0x10b73, .hidden),
   (0x10b78, .numeral), (0x10b80, .caseless), (0x10b92, .hidden), (0x10b99, .visible),
   (0x10b9d, .hidden), (0x10ba9, .numeral), (0x10bb0, .hidden), (0x10c00, .caseless),
   (0x10c49, .hidden), (0x10c80, .cased), (0x10cb3, .hidden), (0x10cc0, .cased),
   (0x10cf3, .hidden), (0x10cfa, .numeral), (0x10d00, .caseless), (0x10d24, .nonspacing),
   (0x10d28, .hidden), (0x10d30, .decimal), (0x10d3a, .hidden), (0x10e60, .numeral),
   (0x10e7f, .hidden), (0x10e80, .caseless), (0x10eaa, .hidden), (0x10eab, .nonspacing),
   (0x10ead, .visible), (0x10eae, .hidden), (0x10eb0, .caseless), (0x10eb2, .hidden),
   (0x10f00, .caseless), (0x10f1d, .numeral), (0x10f27, .caseless), (0x10f28, .hidden),
   (0x10f30, .caseless), (0x10f46, .nonspacing), (0x10f51, .numeral), (0x10f55, .visible),
   (0x10f5a, .hidden), (0x10f70, .caseless), (0x10f82, .nonspacing), (0x10f86, .visible),
   (0x10f8a, .hidden), (0x10fb0, .caseless), (0x10fc5, .numeral), (0x10fcc, .hidden),
   (0x10fe0, .caseless), (0x10ff7, .hidden), (0x11000, .combining), (0x11001, .nonspacing),
   (0x11002, .combining), (0x11003, .caseless), (0x11038, .nonspacing), (0x11047, .visible),
   (0x1104e, .hidden), (0x11052, .numeral), (0x11066, .decimal), (0x11070, .nonspacing),
   (0x11071, .caseless), (0x11073, .nonspacing), (0x11075, .caseless), (0x11076, .hidden),
   (0x1107f, .nonspacing), (0x11082, .combining), (0x11083, .caseless), (0x110b0, .combining),
   (0x110b3, .nonspacing), (0x110b7, .combining), (0x110b9, .nonspacing), (0x110bb, .visible),
   (0x110bd, .format), (0x110be, .visible), (0x110c2, .nonspacing), (0x110c3, .hidden),
   (0x110cd, .format), (0x110ce, .hidden), (0x110d0, .caseless), (0x110e9, .hidden),
   (0x110f0, .decimal), (0x110fa, .hidden), (0x11100, .nonspacing), (0x11103, .caseless),
   (0x11127, .nonspacing), (0x1112c, .combining), (0x1112d, .nonspacing), (0x11135, .hidden),
   (0x11136, .decimal), (0x11140, .visible), (0x11144, .caseless), (0x11145, .combining),
   (0x11147, .caseless), (0x11148, .hidden), (0x11150, .caseless), (0x11173, .nonspacing),
   (0x11174, .visible), (0x11176, .caseless), (0x11177, .hidden), (0x11180, .nonspacing),
   (0x11182, .combining), (0x11183, .caseless), (0x111b3, .combining), (0x111b6, .nonspacing),
   (0x111bf, .combining), (0x111c1, .caseless), (0x111c5, .visible), (0x111c9, .nonspacing),
   (0x111cd, .visible), (0x111ce, .combining), (0x111cf, .nonspacing), (0x111d0, .decimal),
   (0x111da, .caseless), (0x111db, .visible), (0x111dc, .caseless), (0x111dd, .visible),
   (0x111e0, .hidden), (0x111e1, .numeral), (0x111f5, .hidden), (0x11200, .caseless),
   (0x11212, .hidden), (0x11213, .caseless), (0x1122c, .combining), (0x1122f, .nonspacing),
   (0x11232, .combining), (0x11234, .nonspacing), (0x11235, .combining), (0x11236, .nonspacing),
   (0x11238, .visible), (0x1123e, .nonspacing), (0x1123f, .hidden), (0x11280, .caseless),
   (0x11287, .hidden), (0x11288, .caseless), (0x11289, .hidden), (0x1128a, .caseless),
   (0x1128e, .hidden), (0x1128f, .caseless), (0x1129e, .hidden), (0x1129f, .caseless),
   (0x112a9, .visible), (0x112aa, .hidden)]

private def classBlockF : List (Nat × CharClass) :=
  [(0x112b0, .caseless), (0x112df, .nonspacing), (0x112e0, .combining), (0x112e3, .nonspacing),
   (0x112eb, .hidden), (0x112f0, .decimal), (0x112fa, .hidden), (0x11300, .nonspacing),
   (0x11302, .combining), (0x11304, .hidden), (0x11305, .caseless), (0x1130d, .hidden),
   (0x1130f, .caseless), (0x11311, .hidden), (0x11313, .caseless), (0x11329, .hidden),
   (0x1132a, .caseless), (0x11331, .hidden), (0x11332, .caseless), (0x11334, .hidden),
   (0x11335, .caseless), (0x1133a, .hidden), (0x1133b, .nonspacing), (0x1133d, .caseless),
   (0x1133e, .combining), (0x11340, .nonspacing), (0x11341, .combining), (0x11345, .hidden),
   (0x11347, .combining), (0x11349, .hidden), (0x1134b, .combining), (0x1134e, .hidden),
   (0x11350, .caseless), (0x11351, .hidden), (0x11357, .combining), (0x11358, .hidden),
   (0x1135d, .caseless), (0x11362, .combining), (0x11364, .hidden), (0x11366, .nonspacing),
   (0x1136d, .hidden), (0x11370, .nonspacing), (0x11375, .hidden), (0x11400, .caseless),
   (0x11435, .combining), (0x11438, .nonspacing), (0x11440, .combining), (0x11442, .nonspacing),
   (0x11445, .combining), (0x11446, .nonspacing), (0x11447, .caseless), (0x1144b, .visible),
   (0x11450, .decimal), (0x1145a, .visible), (0x1145c, .hidden), (0x1145d, .visible),
   (0x1145e, .nonspacing), (0x1145f, .caseless), (0x11462, .hidden), (0x11480, .caseless),
   (0x114b0, .combining), (0x114b3, .nonspacing), (0x114b9, .combining), (0x114ba, .nonspacing),
   (0x114bb, .combining), (0x114bf, .nonspacing), (0x114c1, .combining), (0x114c2, .nonspacing),
   (0x114c4, .caseless), (0x114c6, .visible), (0x114c7, .caseless), (0x114c8, .hidden),
   (0x114d0, .decimal), (0x114da, .hidden), (0x11580, .caseless), (0x115af, .combining),
   (0x115b2, .nonspacing), (0x115b6, .hidden), (0x115b8, .combining), (0x115bc, .nonspacing),
   (0x115be, .combining), (0x115bf, .nonspacing), (0x115c1, .visible), (0x115d8, .caseless),
   (0x115dc, .nonspacing), (0x115de, .hidden), (0x11600, .caseless), (0x11630, .combining),
   (0x11633, .nonspacing), (0x1163b, .combining), (0x1163d, .nonspacing), (0x1163e, .combining),
   (0x1163f, .nonspacing), (0x11641, .visible), (0x11644, .caseless), (0x11645, .hidden),
   (0x11650, .decimal), (0x1165a, .hidden), (0x11660, .visible), (0x1166d, .hidden),
   (0x11680, .caseless), (0x116ab, .nonspacing), (0x116ac, .combining), (0x116ad, .nonspacing),
   (0x116ae, .combining), (0x116b0, .nonspacing), (0x116b6, .combining), (0x116b7, .nonspacing),
   (0x116b8, .caseless), (0x116b9, .visible), (0x116ba, .hidden), (0x116c0, .decimal),
   (0x116ca, .hidden), (0x11700, .caseless), (0x1171b, .hidden), (0x1171d, .nonspacing),
   (0x11720, .combining), (0x11722, .nonspacing), (0x11726, .combining), (0x11727, .nonspacing),
   (0x1172c, .hidden), (0x11730, .decimal), (0x1173a, .numeral), (0x1173c, .visible),
   (0x11740, .caseless), (0x11747, .hidden), (0x11800, .caseless), (0x1182c, .combining),
   (0x1182f, .nonspacing), (0x11838, .combining), (0x11839, .nonspacing), (0x1183b, .visible),
   (0x1183c, .hidden), (0x118a0, .cased), (0x118e0, .decimal), (0x118ea, .numeral),
   (0x118f3, .hidden), (0x118ff, .caseless), (0x11907, .hidden), (0x11909, .caseless),
   (0x1190a, .hidden), (0x1190c, .caseless), (0x11914, .hidden), (0x11915, .caseless),
   (0x11917, .hidden), (0x11918, .caseless), (0x11930, .combining), (0x11936, .hidden),
   (0x11937, .combining), (0x11939, .hidden), (0x1193b, .nonspacing), (0x1193d, .combining),
   (0x1193e, .nonspacing), (0x1193f, .caseless), (0x11940, .combining), (0x11941, .caseless),
   (0x11942, .combining), (0x11943, .nonspacing), (0x11944, .visible), (0x11947, .hidden),
   (0x11950, .decimal), (0x1195a, .hidden), (0x119a0, .caseless), (0x119a8, .hidden),
   (0x119aa, .caseless), (0x119d1, .combining), (0x119d4, .nonspacing), (0x119d8, .hidden),
   (0x119da, .nonspacing), (0x119dc, .combining), (0x119e0, .nonspacing), (0x119e1, .caseless),
   (0x119e2, .visible), (0x119e3, .caseless), (0x119e4, .combining), (0x119e5, .hidden),
   (0x11a00, .caseless), (0x11a01, .nonspacing), (0x11a0b, .caseless), (0x11a33, .nonspacing),
   (0x11a39, .combining), (0x11a3a, .caseless), (0x11a3b, .nonspacing), (0x11a3f, .visible),
   (0x11a47, .nonspacing), (0x11a48, .hidden), (0x11a50, .caseless), (0x11a51, .nonspacing),
   (0x11a57, .combining), (0x11a59, .nonspacing), (0x11a5c, .caseless), (0x11a8a, .nonspacing),
   (0x11a97, .combining), (0x11a98, .nonspacing), (0x11a9a, .visible), (0x11a9d, .caseless),
   (0x11a9e, .visible), (0x11aa3, .hidden), (0x11ab0, .caseless), (0x11af9, .hidden),
   (0x11c00, .caseless), (0x11c09, .hidden), (0x11c0a, .caseless), (0x11c2f, .combining),
   (0x11c30, .nonspacing), (0x11c37, .hidden), (0x11c38, .nonspacing), (0x11c3e, .combining),
   (0x11c3f, .nonspacing), (0x11c40, .caseless), (0x11c41, .visible), (0x11c46, .hidden),
   (0x11c50, .decimal), (0x11c5a, .numeral), (0x11c6d, .hidden), (0x11c70, .visible),
   (0x11c72, .caseless), (0x11c90, .hidden), (0x11c92, .nonspacing), (0x11ca8, .hidden),
   (0x11ca9, .combining), (0x11caa, .nonspacing), (0x11cb1, .combining), (0x11cb2, .nonspacing),
   (0x11cb4, .combining), (0x11cb5, .nonspacing), (0x11cb7, .hidden), (0x11d00, .caseless),
   (0x11d07, .hidden), (0x11d08, .caseless), (0x11d0a, .hidden), (0x11d0b, .caseless),
   (0x11d31, .nonspacing), (0x11d37, .hidden), (0x11d3a, .nonspacing), (0x11d3b, .hidden),
   (0x11d3c, .nonspacing), (0x11d3e, .hidden), (0x11d3f, .nonspacing), (0x11d46, .caseless),
   (0x11d47, .nonspacing), (0x11d48, .hidden), (0x11d50, .decimal), (0x11d5a, .hidden),
   (0x11d60, .caseless), (0x11d66, .hidden), (0x11d67, .caseless), (0x11d69, .hidden),
   (0x11d6a, .caseless), (0x11d8a, .combining), (0x11d8f, .hidden), (0x11d90, .nonspacing),
   (0x11d92, .hidden), (0x11d93, .combining), (0x11d95, .nonspacing), (0x11d96, .combining),
   (0x11d97, .nonspacing), (0x11d98, .caseless), (0x11d99, .hidden), (0x11da0, .decimal),
   (0x11daa, .hidden), (0x11ee0, .caseless), (0x11ef3, .nonspacing), (0x11ef5, .combining),
   (0x11ef7, .visible), (0x11ef9, .hidden), (0x11fb0, .caseless), (0x11fb1, .hidden),
   (0x11fc0, .numeral), (0x11fd5, .visible), (0x11ff2, .hidden), (0x11fff, .visible),
   (0x12000, .caseless), (0x1239a, .hidden), (0x12400, .letterlike), (0x1246f, .hidden),
   (0x12470, .visible), (0x12475, .hidden), (0x12480, .caseless), (0x12544, .hidden),
   (0x12f90, .caseless), (0x12ff1, .visible), (0x12ff3, .hidden), (0x13000, .caseless),
   (0x1342f, .hidden), (0x13430, .format), (0x13439, .hidden), (0x14400, .caseless),
   (0x14647, .hidden), (0x16800, .caseless), (0x16a39, .hidden), (0x16a40, .caseless),
   (0x16a5f, .hidden), (0x16a60, .decimal), (0x16a6a, .hidden), (0x16a6e, .visible),
   (0x16a70, .caseless), (0x16abf, .hidden), (0x16ac0, .decimal), (0x16aca, .hidden),
   (0x16ad0, .caseless), (0x16aee, .hidden), (0x16af0, .nonspacing), (0x16af5, .visible),
   (0x16af6, .hidden), (0x16b00, .caseless), (0x16b30, .nonspacing), (0x16b37, .visible),
   (0x16b40, .modifier), (0x16b44, .visible), (0x16b46, .hidden), (0x16b50, .decimal),
   (0x16b5a, .hidden), (0x16b5b, .numeral), (0x16b62, .hidden), (0x16b63, .caseless),
   (0x16b78, .hidden), (0x16b7d, .caseless), (0x16b90, .hidden), (0x16e40, .cased),
   (0x16e80, .numeral), (0x16e97, .visible), (0x16e9b, .hidden), (0x16f00, .caseless),
   (0x16f4b, .hidden), (0x16f4f, .nonspacing), (0x16f50, .caseless), (0x16f51, .combining),
   (0x16f88, .hidden), (0x16f8f, .nonspacing), (0x16f93, .modifier), (0x16fa0, .hidden),
   (0x16fe0, .modifier), (0x16fe2, .visible), (0x16fe3, .modifier), (0x16fe4, .nonspacing),
   (0x16fe5, .hidden), (0x16ff0, .combining), (0x16ff2, .hidden), (0x17000, .caseless),
   (0x187f8, .hidden), (0x18800, .caseless), (0x18cd6, .hidden), (0x18d00, .caseless),
   (0x18d09, .hidden), (0x1aff0, .modifier), (0x1aff4, .hidden), (0x1aff5, .modifier),
   (0x1affc, .hidden), (0x1affd, .modifier)]

private def classBlockG : List (Nat × CharClass) :=
  [(0x1afff, .hidden), (0x1b000, .caseless), (0x1b123, .hidden), (0x1b150, .caseless),
   (0x1b153, .hidden), (0x1b164, .caseless), (0x1b168, .hidden), (0x1b170, .caseless),
   (0x1b2fc, .hidden), (0x1bc00, .caseless), (0x1bc6b, .hidden), (0x1bc70, .caseless),
   (0x1bc7d, .hidden), (0x1bc80, .caseless), (0x1bc89, .hidden), (0x1bc90, .caseless),
   (0x1bc9a, .hidden), (0x1bc9c, .visible), (0x1bc9d, .nonspacing), (0x1bc9f, .visible),
   (0x1bca0, .format), (0x1bca4, .hidden), (0x1cf00, .nonspacing), (0x1cf2e, .hidden),
   (0x1cf30, .nonspacing), (0x1cf47, .hidden), (0x1cf50, .visible), (0x1cfc4, .hidden),
   (0x1d000, .visible), (0x1d0f6, .hidden), (0x1d100, .visible), (0x1d127, .hidden),
   (0x1d129, .visible), (0x1d165, .combining), (0x1d167, .nonspacing), (0x1d16a, .visible),
   (0x1d16d, .combining), (0x1d173, .format), (0x1d17b, .nonspacing), (0x1d183, .visible),
   (0x1d185, .nonspacing), (0x1d18c, .visible), (0x1d1aa, .nonspacing), (0x1d1ae, .visible),
   (0x1d1eb, .hidden), (0x1d200, .visible), (0x1d242, .nonspacing), (0x1d245, .visible),
   (0x1d246, .hidden), (0x1d2e0, .numeral), (0x1d2f4, .hidden), (0x1d300, .visible),
   (0x1d357, .hidden), (0x1d360, .numeral), (0x1d379, .hidden), (0x1d400, .cased),
   (0x1d455, .hidden), (0x1d456, .cased), (0x1d49d, .hidden), (0x1d49e, .cased),
   (0x1d4a0, .hidden), (0x1d4a2, .cased), (0x1d4a3, .hidden), (0x1d4a5, .cased),
   (0x1d4a7, .hidden), (0x1d4a9, .cased), (0x1d4ad, .hidden), (0x1d4ae, .cased),
   (0x1d4ba, .hidden), (0x1d4bb, .cased), (0x1d4bc, .hidden), (0x1d4bd, .cased),
   (0x1d4c4, .hidden), (0x1d4c5, .cased), (0x1d506, .hidden), (0x1d507, .cased),
   (0x1d50b, .hidden), (0x1d50d, .cased), (0x1d515, .hidden), (0x1d516, .cased),
   (0x1d51d, .hidden), (0x1d51e, .cased), (0x1d53a, .hidden), (0x1d53b, .cased),
   (0x1d53f, .hidden), (0x1d540, .cased), (0x1d545, .hidden), (0x1d546, .cased),
   (0x1d547, .hidden), (0x1d54a, .cased), (0x1d551, .hidden), (0x1d552, .cased),
   (0x1d6a6, .hidden), (0x1d6a8, .cased), (0x1d6c1, .visible), (0x1d6c2, .cased),
   (0x1d6db, .visible), (0x1d6dc, .cased), (0x1d6fb, .visible), (0x1d6fc, .cased),
   (0x1d715, .visible), (0x1d716, .cased), (0x1d735, .visible), (0x1d736, .cased),
   (0x1d74f, .visible), (0x1d750, .cased), (0x1d76f, .visible), (0x1d770, .cased),
   (0x1d789, .visible), (0x1d78a, .cased), (0x1d7a9, .visible), (0x1d7aa, .cased),
   (0x1d7c3, .visible), (0x1d7c4, .cased), (0x1d7cc, .hidden), (0x1d7ce, .decimal),
   (0x1d800, .visible), (0x1da00, .nonspacing), (0x1da37, .visible), (0x1da3b, .nonspacing),
   (0x1da6d, .visible), (0x1da75, .nonspacing), (0x1da76, .visible), (0x1da84, .nonspacing),
   (0x1da85, .visible), (0x1da8c, .hidden), (0x1da9b, .nonspacing), (0x1daa0, .hidden),
   (0x1daa1, .nonspacing), (0x1dab0, .hidden), (0x1df00, .cased), (0x1df0a, .caseless),
   (0x1df0b, .cased), (0x1df1f, .hidden), (0x1e000, .nonspacing), (0x1e007, .hidden),
   (0x1e008, .nonspacing), (0x1e019, .hidden), (0x1e01b, .nonspacing), (0x1e022, .hidden),
   (0x1e023, .nonspacing), (0x1e025, .hidden), (0x1e026, .nonspacing), (0x1e02b, .hidden),
   (0x1e100, .caseless), (0x1e12d, .hidden), (0x1e130, .nonspacing), (0x1e137, .modifier),
   (0x1e13e, .hidden), (0x1e140, .decimal), (0x1e14a, .hidden), (0x1e14e, .caseless),
   (0x1e14f, .visible), (0x1e150, .hidden), (0x1e290, .caseless), (0x1e2ae, .nonspacing),
   (0x1e2af, .hidden), (0x1e2c0, .caseless), (0x1e2ec, .nonspacing), (0x1e2f0, .decimal),
   (0x1e2fa, .hidden), (0x1e2ff, .visible), (0x1e300, .hidden), (0x1e7e0, .caseless),
   (0x1e7e7, .hidden), (0x1e7e8, .caseless), (0x1e7ec, .hidden), (0x1e7ed, .caseless),
   (0x1e7ef, .hidden), (0x1e7f0, .caseless), (0x1e7ff, .hidden), (0x1e800, .caseless),
   (0x1e8c5, .hidden), (0x1e8c7, .numeral), (0x1e8d0, .nonspacing), (0x1e8d7, .hidden),
   (0x1e900, .cased), (0x1e944, .nonspacing), (0x1e94b, .modifier), (0x1e94c, .hidden),
   (0x1e950, .decimal), (0x1e95a, .hidden), (0x1e95e, .visible), (0x1e960, .hidden),
   (0x1ec71, .numeral), (0x1ecac, .visible), (0x1ecad, .numeral), (0x1ecb0, .visible),
   (0x1ecb1, .numeral), (0x1ecb5, .hidden), (0x1ed01, .numeral), (0x1ed2e, .visible),
   (0x1ed2f, .numeral), (0x1ed3e, .hidden), (0x1ee00, .caseless), (0x1ee04, .hidden),
   (0x1ee05, .caseless), (0x1ee20, .hidden), (0x1ee21, .caseless), (0x1ee23, .hidden),
   (0x1ee24, .caseless), (0x1ee25, .hidden), (0x1ee27, .caseless), (0x1ee28, .hidden),
   (0x1ee29, .caseless), (0x1ee33, .hidden), (0x1ee34, .caseless), (0x1ee38, .hidden),
   (0x1ee39, .caseless), (0x1ee3a, .hidden), (0x1ee3b, .caseless), (0x1ee3c, .hidden),
   (0x1ee42, .caseless), (0x1ee43, .hidden), (0x1ee47, .caseless), (0x1ee48, .hidden),
   (0x1ee49, .caseless), (0x1ee4a, .hidden), (0x1ee4b, .caseless), (0x1ee4c, .hidden),
   (0x1ee4d, .caseless), (0x1ee50, .hidden), (0x1ee51, .caseless), (0x1ee53, .hidden),
   (0x1ee54, .caseless), (0x1ee55, .hidden), (0x1ee57, .caseless), (0x1ee58, .hidden),
   (0x1ee59, .caseless), (0x1ee5a, .hidden), (0x1ee5b, .caseless), (0x1ee5c, .hidden),
   (0x1ee5d, .caseless), (0x1ee5e, .hidden), (0x1ee5f, .caseless), (0x1ee60, .hidden),
   (0x1ee61, .caseless), (0x1ee63, .hidden), (0x1ee64, .caseless), (0x1ee65, .hidden),
   (0x1ee67, .caseless), (0x1ee6b, .hidden), (0x1ee6c, .caseless), (0x1ee73, .hidden),
   (0x1ee74, .caseless), (0x1ee78, .hidden), (0x1ee79, .caseless), (0x1ee7d, .hidden),
   (0x1ee7e, .caseless), (0x1ee7f, .hidden), (0x1ee80, .caseless), (0x1ee8a, .hidden),
   (0x1ee8b, .caseless), (0x1ee9c, .hidden), (0x1eea1, .caseless), (0x1eea4, .hidden),
   (0x1eea5, .caseless), (0x1eeaa, .hidden), (0x1eeab, .caseless), (0x1eebc, .hidden),
   (0x1eef0, .visible), (0x1eef2, .hidden), (0x1f000, .visible), (0x1f02c, .hidden),
   (0x1f030, .visible), (0x1f094, .hidden), (0x1f0a0, .visible), (0x1f0af, .hidden),
   (0x1f0b1, .visible), (0x1f0c0, .hidden), (0x1f0c1, .visible), (0x1f0d0, .hidden),
   (0x1f0d1, .visible), (0x1f0f6, .hidden), (0x1f100, .numeral), (0x1f10d, .visible),
   (0x1f1ae, .hidden), (0x1f1e6, .visible), (0x1f203, .hidden), (0x1f210, .visible),
   (0x1f23c, .hidden), (0x1f240, .visible), (0x1f249, .hidden), (0x1f250, .visible),
   (0x1f252, .hidden), (0x1f260, .visible), (0x1f266, .hidden), (0x1f300, .visible),
   (0x1f3fb, .accent), (0x1f400, .visible), (0x1f6d8, .hidden), (0x1f6dd, .visible),
   (0x1f6ed, .hidden), (0x1f6f0, .visible), (0x1f6fd, .hidden), (0x1f700, .visible),
   (0x1f774, .hidden), (0x1f780, .visible), (0x1f7d9, .hidden), (0x1f7e0, .visible),
   (0x1f7ec, .hidden), (0x1f7f0, .visible), (0x1f7f1, .hidden), (0x1f800, .visible),
   (0x1f80c, .hidden), (0x1f810, .visible), (0x1f848, .hidden), (0x1f850, .visible),
   (0x1f85a, .hidden), (0x1f860, .visible), (0x1f888, .hidden), (0x1f890, .visible),
   (0x1f8ae, .hidden), (0x1f8b0, .visible), (0x1f8b2, .hidden), (0x1f900, .visible),
   (0x1fa54, .hidden), (0x1fa60, .visible), (0x1fa6e, .hidden), (0x1fa70, .visible),
   (0x1fa75, .hidden), (0x1fa78, .visible), (0x1fa7d, .hidden), (0x1fa80, .visible),
   (0x1fa87, .hidden), (0x1fa90, .visible), (0x1faad, .hidden), (0x1fab0, .visible),
   (0x1fabb, .hidden), (0x1fac0, .visible), (0x1fac6, .hidden), (0x1fad0, .visible),
   (0x1fada, .hidden), (0x1fae0, .visible), (0x1fae8, .hidden), (0x1faf0, .visible),
   (0x1faf7, .hidden), (0x1fb00, .visible), (0x1fb93, .hidden), (0x1fb94, .visible),
   (0x1fbcb, .hidden), (0x1fbf0, .decimal), (0x1fbfa, .hidden), (0x20000, .caseless),
   (0x2a6e0, .hidden), (0x2a700, .caseless), (0x2b739, .hidden), (0x2b740, .caseless),
   (0x2b81e, .hidden), (0x2b820, .caseless)]

private def classBlockH : List (Nat × CharClass) :=
  [(0x2cea2, .hidden), (0x2ceb0, .caseless), (0x2ebe1, .hidden), (0x2f800, .caseless),
   (0x2fa1e, .hidden), (0x30000, .caseless), (0x3134b, .hidden), (0xe0001, .format),
   (0xe0002, .hidden), (0xe0020, .format), (0xe0080, .hidden), (0xe0100, .nonspacing),
   (0xe01f0, .hidden)]

def classStarts : List (Nat × CharClass) :=
  classBlockA ++ classBlockB ++ classBlockC ++ classBlockD ++ classBlockE ++ classBlockF ++
    classBlockG ++ classBlockH

private def classFrom (current : CharClass) (code : Nat) : List (Nat × CharClass) → CharClass
  | [] => current
  | (start, next) :: rest => if code < start then current else classFrom next code rest

/-- The class of a code point is that of the last entry that does not lie beyond it. -/
def classOf (code : Nat) : CharClass := classFrom .hidden code classStarts

end TitleSieve.Text
