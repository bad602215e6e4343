import VisualNovel.Text.CodeRange

/-!
# Characters of host names

The names of hosts consist of small letters, digits, marks and hyphens of all scripts.
Some more characters are allowed next to certain others only.  The tables are those for
internationalized names, as far as version 14 of Unicode goes.
-/

namespace VisualNovel.Http.Host

/-- The first and the last character of each run, and the distance between two of them. -/
def letterSteps : Array (Nat × Nat × Nat) := #[
   (0x2d, 0x2d, 0x1), (0x30, 0x39, 0x1), (0x61, 0x7a, 0x1), (0xdf, 0xf6, 0x1),
   (0xf8, 0xff, 0x1), (0x101, 0x131, 0x2), (0x135, 0x135, 0x1), (0x137, 0x138, 0x1),
   (0x13a, 0x13e, 0x2), (0x142, 0x148, 0x2), (0x14b, 0x177, 0x2), (0x17a, 0x180, 0x2),
   (0x183, 0x183, 0x1), (0x185, 0x185, 0x1), (0x188, 0x188, 0x1), (0x18c, 0x18d, 0x1),
   (0x192, 0x192, 0x1), (0x195, 0x195, 0x1), (0x199, 0x19b, 0x1), (0x19e, 0x19e, 0x1),
   (0x1a1, 0x1a5, 0x2), (0x1a8, 0x1a8, 0x1), (0x1aa, 0x1ab, 0x1), (0x1ad, 0x1ad, 0x1),
   (0x1b0, 0x1b0, 0x1), (0x1b4, 0x1b4, 0x1), (0x1b6, 0x1b6, 0x1), (0x1b9, 0x1bb, 0x1),
   (0x1bd, 0x1c3, 0x1), (0x1ce, 0x1da, 0x2), (0x1dc, 0x1dd, 0x1), (0x1df, 0x1ed, 0x2),
   (0x1ef, 0x1f0, 0x1), (0x1f5, 0x1f5, 0x1), (0x1f9, 0x231, 0x2), (0x233, 0x239, 0x1),
   (0x23c, 0x23c, 0x1), (0x23f, 0x240, 0x1), (0x242, 0x242, 0x1), (0x247, 0x24d, 0x2),
   (0x24f, 0x2af, 0x1), (0x2b9, 0x2c1, 0x1), (0x2c6, 0x2d1, 0x1), (0x2ec, 0x2ec, 0x1),
   (0x2ee, 0x2ee, 0x1), (0x300, 0x33f, 0x1), (0x342, 0x342, 0x1), (0x346, 0x34e, 0x1),
   (0x350, 0x36f, 0x1), (0x371, 0x371, 0x1), (0x373, 0x373, 0x1), (0x377, 0x377, 0x1),
   (0x37b, 0x37d, 0x1), (0x390, 0x390, 0x1), (0x3ac, 0x3ce, 0x1), (0x3d7, 0x3ef, 0x2),
   (0x3f3, 0x3f3, 0x1), (0x3f8, 0x3f8, 0x1), (0x3fb, 0x3fc, 0x1), (0x430, 0x45f, 0x1),
   (0x461, 0x481, 0x2), (0x483, 0x487, 0x1), (0x48b, 0x4bf, 0x2), (0x4c2, 0x4cc, 0x2),
   (0x4ce, 0x4cf, 0x1), (0x4d1, 0x52f, 0x2), (0x559, 0x559, 0x1), (0x560, 0x586, 0x1),
   (0x588, 0x588, 0x1), (0x591, 0x5bd, 0x1), (0x5bf, 0x5bf, 0x1), (0x5c1, 0x5c2, 0x1),
   (0x5c4, 0x5c5, 0x1), (0x5c7, 0x5c7, 0x1), (0x5d0, 0x5ea, 0x1), (0x5ef, 0x5f2, 0x1),
   (0x610, 0x61a, 0x1), (0x620, 0x63f, 0x1), (0x641, 0x65f, 0x1), (0x66e, 0x674, 0x1),
   (0x679, 0x6d3, 0x1), (0x6d5, 0x6dc, 0x1), (0x6df, 0x6e8, 0x1), (0x6ea, 0x6ef, 0x1),
   (0x6fa, 0x6ff, 0x1), (0x710, 0x74a, 0x1), (0x74d, 0x7b1, 0x1), (0x7c0, 0x7f5, 0x1),
   (0x7fd, 0x7fd, 0x1), (0x800, 0x82d, 0x1), (0x840, 0x85b, 0x1), (0x860, 0x86a, 0x1),
   (0x870, 0x887, 0x1), (0x889, 0x88e, 0x1), (0x898, 0x8e1, 0x1), (0x8e3, 0x957, 0x1),
   (0x960, 0x963, 0x1), (0x966, 0x96f, 0x1), (0x971, 0x983, 0x1), (0x985, 0x98c, 0x1),
   (0x98f, 0x990, 0x1), (0x993, 0x9a8, 0x1), (0x9aa, 0x9b0, 0x1), (0x9b2, 0x9b2, 0x1),
   (0x9b6, 0x9b9, 0x1), (0x9bc, 0x9c4, 0x1), (0x9c7, 0x9c8, 0x1), (0x9cb, 0x9ce, 0x1),
   (0x9d7, 0x9d7, 0x1), (0x9e0, 0x9e3, 0x1), (0x9e6, 0x9f1, 0x1), (0x9fc, 0x9fc, 0x1),
   (0x9fe, 0x9fe, 0x1), (0xa01, 0xa03, 0x1), (0xa05, 0xa0a, 0x1), (0xa0f, 0xa10, 0x1),
   (0xa13, 0xa28, 0x1), (0xa2a, 0xa30, 0x1), (0xa32, 0xa32, 0x1), (0xa35, 0xa35, 0x1),
   (0xa38, 0xa39, 0x1), (0xa3c, 0xa3c, 0x1), (0xa3e, 0xa42, 0x1), (0xa47, 0xa48, 0x1),
   (0xa4b, 0xa4d, 0x1), (0xa51, 0xa51, 0x1), (0xa5c, 0xa5c, 0x1), (0xa66, 0xa75, 0x1),
   (0xa81, 0xa83, 0x1), (0xa85, 0xa8d, 0x1), (0xa8f, 0xa91, 0x1), (0xa93, 0xaa8, 0x1),
   (0xaaa, 0xab0, 0x1), (0xab2, 0xab3, 0x1), (0xab5, 0xab9, 0x1), (0xabc, 0xac5, 0x1),
   (0xac7, 0xac9, 0x1), (0xacb, 0xacd, 0x1), (0xad0, 0xad0, 0x1), (0xae0, 0xae3, 0x1),
   (0xae6, 0xaef, 0x1), (0xaf9, 0xaff, 0x1), (0xb01, 0xb03, 0x1), (0xb05, 0xb0c, 0x1),
   (0xb0f, 0xb10, 0x1), (0xb13, 0xb28, 0x1), (0xb2a, 0xb30, 0x1), (0xb32, 0xb33, 0x1),
   (0xb35, 0xb39, 0x1), (0xb3c, 0xb44, 0x1), (0xb47, 0xb48, 0x1), (0xb4b, 0xb4d, 0x1),
   (0xb55, 0xb57, 0x1), (0xb5f, 0xb63, 0x1), (0xb66, 0xb6f, 0x1), (0xb71, 0xb71, 0x1),
   (0xb82, 0xb83, 0x1), (0xb85, 0xb8a, 0x1), (0xb8e, 0xb90, 0x1), (0xb92, 0xb95, 0x1),
   (0xb99, 0xb9a, 0x1), (0xb9c, 0xb9c, 0x1), (0xb9e, 0xb9f, 0x1), (0xba3, 0xba4, 0x1),
   (0xba8, 0xbaa, 0x1), (0xbae, 0xbb9, 0x1), (0xbbe, 0xbc2, 0x1), (0xbc6, 0xbc8, 0x1),
   (0xbca, 0xbcd, 0x1), (0xbd0, 0xbd0, 0x1), (0xbd7, 0xbd7, 0x1), (0xbe6, 0xbef, 0x1),
   (0xc00, 0xc0c, 0x1), (0xc0e, 0xc10, 0x1), (0xc12, 0xc28, 0x1), (0xc2a, 0xc39, 0x1),
   (0xc3c, 0xc44, 0x1), (0xc46, 0xc48, 0x1), (0xc4a, 0xc4d, 0x1), (0xc55, 0xc56, 0x1),
   (0xc58, 0xc5a, 0x1), (0xc5d, 0xc5d, 0x1), (0xc60, 0xc63, 0x1), (0xc66, 0xc6f, 0x1),
   (0xc80, 0xc83, 0x1), (0xc85, 0xc8c, 0x1), (0xc8e, 0xc90, 0x1), (0xc92, 0xca8, 0x1),
   (0xcaa, 0xcb3, 0x1), (0xcb5, 0xcb9, 0x1), (0xcbc, 0xcc4, 0x1), (0xcc6, 0xcc8, 0x1),
   (0xcca, 0xccd, 0x1), (0xcd5, 0xcd6, 0x1), (0xcdd, 0xcde, 0x1), (0xce0, 0xce3, 0x1),
   (0xce6, 0xcef, 0x1), (0xcf1, 0xcf2, 0x1), (0xd00, 0xd0c, 0x1), (0xd0e, 0xd10, 0x1),
   (0xd12, 0xd44, 0x1), (0xd46, 0xd48, 0x1), (0xd4a, 0xd4e, 0x1), (0xd54, 0xd57, 0x1),
   (0xd5f, 0xd63, 0x1), (0xd66, 0xd6f, 0x1), (0xd7a, 0xd7f, 0x1), (0xd81, 0xd83, 0x1),
   (0xd85, 0xd96, 0x1), (0xd9a, 0xdb1, 0x1), (0xdb3, 0xdbb, 0x1), (0xdbd, 0xdbd, 0x1),
   (0xdc0, 0xdc6, 0x1), (0xdca, 0xdca, 0x1), (0xdcf, 0xdd4, 0x1), (0xdd6, 0xdd6, 0x1),
   (0xdd8, 0xddf, 0x1), (0xde6, 0xdef, 0x1), (0xdf2, 0xdf3, 0x1), (0xe01, 0xe32, 0x1),
   (0xe34, 0xe3a, 0x1), (0xe40, 0xe4e, 0x1), (0xe50, 0xe59, 0x1), (0xe81, 0xe82, 0x1),
   (0xe84, 0xe84, 0x1), (0xe86, 0xe8a, 0x1), (0xe8c, 0xea3, 0x1), (0xea5, 0xea5, 0x1),
   (0xea7, 0xeb2, 0x1), (0xeb4, 0xebd, 0x1), (0xec0, 0xec4, 0x1), (0xec6, 0xec6, 0x1),
   (0xec8, 0xecd, 0x1), (0xed0, 0xed9, 0x1), (0xede, 0xedf, 0x1), (0xf00, 0xf00, 0x1),
   (0xf0b, 0xf0b, 0x1), (0xf18, 0xf19, 0x1), (0xf20, 0xf29, 0x1), (0xf35, 0xf39, 0x2),
   (0xf3e, 0xf42, 0x1), (0xf44, 0xf47, 0x1), (0xf49, 0xf4c, 0x1), (0xf4e, 0xf51, 0x1),
   (0xf53, 0xf56, 0x1), (0xf58, 0xf5b, 0x1), (0xf5d, 0xf68, 0x1), (0xf6a, 0xf6c, 0x1),
   (0xf71, 0xf72, 0x1), (0xf74, 0xf74, 0x1), (0xf7a, 0xf80, 0x1), (0xf82, 0xf84, 0x1),
   (0xf86, 0xf92, 0x1), (0xf94, 0xf97, 0x1), (0xf99, 0xf9c, 0x1), (0xf9e, 0xfa1, 0x1),
   (0xfa3, 0xfa6, 0x1), (0xfa8, 0xfab, 0x1), (0xfad, 0xfb8, 0x1), (0xfba, 0xfbc, 0x1),
   (0xfc6, 0xfc6, 0x1), (0x1000, 0x1049, 0x1), (0x1050, 0x109d, 0x1), (0x10d0, 0x10fa, 0x1),
   (0x10fd, 0x10ff, 0x1), (0x1200, 0x1248, 0x1), (0x124a, 0x124d, 0x1), (0x1250, 0x1256, 0x1),
   (0x1258, 0x1258, 0x1), (0x125a, 0x125d, 0x1), (0x1260, 0x1288, 0x1), (0x128a, 0x128d, 0x1),
   (0x1290, 0x12b0, 0x1), (0x12b2, 0x12b5, 0x1), (0x12b8, 0x12be, 0x1), (0x12c0, 0x12c0, 0x1),
   (0x12c2, 0x12c5, 0x1), (0x12c8, 0x12d6, 0x1), (0x12d8, 0x1310, 0x1), (0x1312, 0x1315, 0x1),
   (0x1318, 0x135a, 0x1), (0x135d, 0x135f, 0x1), (0x1380, 0x138f, 0x1), (0x13a0, 0x13f5, 0x1),
   (0x1401, 0x166c, 0x1), (0x166f, 0x167f, 0x1), (0x1681, 0x169a, 0x1), (0x16a0, 0x16ea, 0x1),
   (0x16f1, 0x16f8, 0x1), (0x1700, 0x1715, 0x1), (0x171f, 0x1734, 0x1), (0x1740, 0x1753, 0x1),
   (0x1760, 0x176c, 0x1), (0x176e, 0x1770, 0x1), (0x1772, 0x1773, 0x1), (0x1780, 0x17b3, 0x1),
   (0x17b6, 0x17d3, 0x1), (0x17d7, 0x17d7, 0x1), (0x17dc, 0x17dd, 0x1), (0x17e0, 0x17e9, 0x1),
   (0x1810, 0x1819, 0x1), (0x1820, 0x1878, 0x1), (0x1880, 0x18aa, 0x1), (0x18b0, 0x18f5, 0x1),
   (0x1900, 0x191e, 0x1), (0x1920, 0x192b, 0x1), (0x1930, 0x193b, 0x1), (0x1946, 0x196d, 0x1),
   (0x1970, 0x1974, 0x1), (0x1980, 0x19ab, 0x1), (0x19b0, 0x19c9, 0x1), (0x19d0, 0x19d9, 0x1),
   (0x1a00, 0x1a1b, 0x1), (0x1a20, 0x1a5e, 0x1), (0x1a60, 0x1a7c, 0x1), (0x1a7f, 0x1a89, 0x1),
   (0x1a90, 0x1a99, 0x1), (0x1aa7, 0x1aa7, 0x1), (0x1ab0, 0x1abd, 0x1), (0x1abf, 0x1ace, 0x1),
   (0x1b00, 0x1b4c, 0x1), (0x1b50, 0x1b59, 0x1), (0x1b6b, 0x1b73, 0x1), (0x1b80, 0x1bf3, 0x1),
   (0x1c00, 0x1c37, 0x1), (0x1c40, 0x1c49, 0x1), (0x1c4d, 0x1c7d, 0x1), (0x1cd0, 0x1cd2, 0x1),
   (0x1cd4, 0x1cfa, 0x1), (0x1d00, 0x1d2b, 0x1), (0x1d2f, 0x1d2f, 0x1), (0x1d3b, 0x1d3b, 0x1),
   (0x1d4e, 0x1d4e, 0x1), (0x1d6b, 0x1d77, 0x1), (0x1d79, 0x1d9a, 0x1), (0x1dc0, 0x1dff, 0x1),
   (0x1e01, 0x1e93, 0x2), (0x1e95, 0x1e99, 0x1), (0x1e9c, 0x1e9d, 0x1), (0x1e9f, 0x1efd, 0x2),
   (0x1eff, 0x1f07, 0x1), (0x1f10, 0x1f15, 0x1), (0x1f20, 0x1f27, 0x1), (0x1f30, 0x1f37, 0x1),
   (0x1f40, 0x1f45, 0x1), (0x1f50, 0x1f57, 0x1), (0x1f60, 0x1f67, 0x1), (0x1f70, 0x1f7c, 0x2),
   (0x1fb0, 0x1fb1, 0x1), (0x1fb6, 0x1fb6, 0x1), (0x1fc6, 0x1fc6, 0x1), (0x1fd0, 0x1fd2, 0x1),
   (0x1fd6, 0x1fd7, 0x1), (0x1fe0, 0x1fe2, 0x1), (0x1fe4, 0x1fe7, 0x1), (0x1ff6, 0x1ff6, 0x1),
   (0x214e, 0x214e, 0x1), (0x2184, 0x2184, 0x1), (0x2c30, 0x2c5f, 0x1), (0x2c61, 0x2c61, 0x1),
   (0x2c65, 0x2c66, 0x1), (0x2c68, 0x2c6c, 0x2), (0x2c71, 0x2c71, 0x1), (0x2c73, 0x2c74, 0x1),
   (0x2c76, 0x2c7b, 0x1), (0x2c81, 0x2ce1, 0x2), (0x2ce3, 0x2ce4, 0x1), (0x2cec, 0x2cec, 0x1),
   (0x2cee, 0x2cf1, 0x1), (0x2cf3, 0x2cf3, 0x1), (0x2d00, 0x2d25, 0x1), (0x2d27, 0x2d27, 0x1),
   (0x2d2d, 0x2d2d, 0x1), (0x2d30, 0x2d67, 0x1), (0x2d7f, 0x2d96, 0x1), (0x2da0, 0x2da6, 0x1),
   (0x2da8, 0x2dae, 0x1), (0x2db0, 0x2db6, 0x1), (0x2db8, 0x2dbe, 0x1), (0x2dc0, 0x2dc6, 0x1),
   (0x2dc8, 0x2dce, 0x1), (0x2dd0, 0x2dd6, 0x1), (0x2dd8, 0x2dde, 0x1), (0x2de0, 0x2dff, 0x1),
   (0x2e2f, 0x2e2f, 0x1), (0x3005, 0x3007, 0x1), (0x302a, 0x302d, 0x1), (0x303c, 0x303c, 0x1),
   (0x3041, 0x3096, 0x1), (0x3099, 0x309a, 0x1), (0x309d, 0x309e, 0x1), (0x30a1, 0x30fa, 0x1),
   (0x30fc, 0x30fe, 0x1), (0x3105, 0x312f, 0x1), (0x31a0, 0x31bf, 0x1), (0x31f0, 0x31ff, 0x1),
   (0x3400, 0x4dbf, 0x1), (0x4e00, 0xa48c, 0x1), (0xa4d0, 0xa4fd, 0x1), (0xa500, 0xa60c, 0x1),
   (0xa610, 0xa62b, 0x1), (0xa641, 0xa66b, 0x2), (0xa66d, 0xa66f, 0x1), (0xa674, 0xa67d, 0x1),
   (0xa67f, 0xa69b, 0x2), (0xa69e, 0xa6e5, 0x1), (0xa6f0, 0xa6f1, 0x1), (0xa717, 0xa71f, 0x1),
   (0xa723, 0xa72d, 0x2), (0xa72f, 0xa731, 0x1), (0xa733, 0xa76f, 0x2), (0xa771, 0xa778, 0x1),
   (0xa77a, 0xa77a, 0x1), (0xa77c, 0xa77c, 0x1), (0xa77f, 0xa785, 0x2), (0xa787, 0xa788, 0x1),
   (0xa78c, 0xa78c, 0x1), (0xa78e, 0xa78f, 0x1), (0xa791, 0xa791, 0x1), (0xa793, 0xa795, 0x1),
   (0xa797, 0xa7a9, 0x2), (0xa7af, 0xa7af, 0x1), (0xa7b5, 0xa7c3, 0x2), (0xa7c8, 0xa7c8, 0x1),
   (0xa7ca, 0xa7ca, 0x1), (0xa7d1, 0xa7d9, 0x2), (0xa7f6, 0xa7f7, 0x1), (0xa7fa, 0xa827, 0x1),
   (0xa82c, 0xa82c, 0x1), (0xa840, 0xa873, 0x1), (0xa880, 0xa8c5, 0x1), (0xa8d0, 0xa8d9, 0x1),
   (0xa8e0, 0xa8f7, 0x1), (0xa8fb, 0xa8fb, 0x1), (0xa8fd, 0xa92d, 0x1), (0xa930, 0xa953, 0x1),
   (0xa980, 0xa9c0, 0x1), (0xa9cf, 0xa9d9, 0x1), (0xa9e0, 0xa9fe, 0x1), (0xaa00, 0xaa36, 0x1),
   (0xaa40, 0xaa4d, 0x1), (0xaa50, 0xaa59, 0x1), (0xaa60, 0xaa76, 0x1), (0xaa7a, 0xaac2, 0x1),
   (0xaadb, 0xaadd, 0x1), (0xaae0, 0xaaef, 0x1), (0xaaf2, 0xaaf6, 0x1), (0xab01, 0xab06, 0x1),
   (0xab09, 0xab0e, 0x1), (0xab11, 0xab16, 0x1), (0xab20, 0xab26, 0x1), (0xab28, 0xab2e, 0x1),
   (0xab30, 0xab5a, 0x1), (0xab60, 0xab68, 0x1), (0xabc0, 0xabea, 0x1), (0xabec, 0xabed, 0x1),
   (0xabf0, 0xabf9, 0x1), (0xac00, 0xd7a3, 0x1), (0xfa0e, 0xfa0f, 0x1), (0xfa11, 0xfa11, 0x1),
   (0xfa13, 0xfa14, 0x1), (0xfa1f, 0xfa1f, 0x1), (0xfa21, 0xfa21, 0x1), (0xfa23, 0xfa24, 0x1),
   (0xfa27, 0xfa29, 0x1), (0xfb1e, 0xfb1e, 0x1), (0xfe20, 0xfe2f, 0x1), (0xfe73, 0xfe73, 0x1),
   (0x10000, 0x1000b, 0x1), (0x1000d, 0x10026, 0x1), (0x10028, 0x1003a, 0x1),
   (0x1003c, 0x1003d, 0x1), (0x1003f, 0x1004d, 0x1), (0x10050, 0x1005d, 0x1),
   (0x10080, 0x100fa, 0x1), (0x101fd, 0x101fd, 0x1), (0x10280, 0x1029c, 0x1),
   (0x102a0, 0x102d0, 0x1), (0x102e0, 0x102e0, 0x1), (0x10300, 0x1031f, 0x1),
   (0x1032d, 0x10340, 0x1), (0x10342, 0x10349, 0x1), (0x10350, 0x1037a, 0x1),
   (0x10380, 0x1039d, 0x1), (0x103a0, 0x103c3, 0x1), (0x103c8, 0x103cf, 0x1),
   (0x10428, 0x1049d, 0x1), (0x104a0, 0x104a9, 0x1), (0x104d8, 0x104fb, 0x1),
   (0x10500, 0x10527, 0x1), (0x10530, 0x10563, 0x1), (0x10597, 0x105a1, 0x1),
   (0x105a3, 0x105b1, 0x1), (0x105b3, 0x105b9, 0x1), (0x105bb, 0x105bc, 0x1),
   (0x10600, 0x10736, 0x1), (0x10740, 0x10755, 0x1), (0x10760, 0x10767, 0x1),
   (0x10780, 0x10780, 0x1), (0x10800, 0x10805, 0x1), (0x10808, 0x10808, 0x1),
   (0x1080a, 0x10835, 0x1), (0x10837, 0x10838, 0x1), (0x1083c, 0x1083c, 0x1),
   (0x1083f, 0x10855, 0x1), (0x10860, 0x10876, 0x1), (0x10880, 0x1089e, 0x1),
   (0x108e0, 0x108f2, 0x1), (0x108f4, 0x108f5, 0x1), (0x10900, 0x10915, 0x1),
   (0x10920, 0x10939, 0x1), (0x10980, 0x109b7, 0x1), (0x109be, 0x109bf, 0x1),
   (0x10a00, 0x10a03, 0x1), (0x10a05, 0x10a06, 0x1), (0x10a0c, 0x10a13, 0x1),
   (0x10a15, 0x10a17, 0x1), (0x10a19, 0x10a35, 0x1), (0x10a38, 0x10a3a, 0x1),
   (0x10a3f, 0x10a3f, 0x1), (0x10a60, 0x10a7c, 0x1), (0x10a80, 0x10a9c, 0x1),
   (0x10ac0, 0x10ac7, 0x1), (0x10ac9, 0x10ae6, 0x1), (0x10b00, 0x10b35, 0x1),
   (0x10b40, 0x10b55, 0x1), (0x10b60, 0x10b72, 0x1), (0x10b80, 0x10b91, 0x1),
   (0x10c00, 0x10c48, 0x1), (0x10cc0, 0x10cf2, 0x1), (0x10d00, 0x10d27, 0x1),
   (0x10d30, 0x10d39, 0x1), (0x10e80, 0x10ea9, 0x1), (0x10eab, 0x10eac, 0x1),
   (0x10eb0, 0x10eb1, 0x1), (0x10f00, 0x10f1c, 0x1), (0x10f27, 0x10f27, 0x1),
   (0x10f30, 0x10f50, 0x1), (0x10f70, 0x10f85, 0x1), (0x10fb0, 0x10fc4, 0x1),
   (0x10fe0, 0x10ff6, 0x1), (0x11000, 0x11046, 0x1), (0x11066, 0x11075, 0x1),
   (0x1107f, 0x110ba, 0x1), (0x110c2, 0x110c2, 0x1), (0x110d0, 0x110e8, 0x1),
   (0x110f0, 0x110f9, 0x1), (0x11100, 0x11134, 0x1), (0x11136, 0x1113f, 0x1),
   (0x11144, 0x11147, 0x1), (0x11150, 0x11173, 0x1), (0x11176, 0x11176, 0x1),
   (0x11180, 0x111c4, 0x1), (0x111c9, 0x111cc, 0x1), (0x111ce, 0x111da, 0x1),
   (0x111dc, 0x111dc, 0x1), (0x11200, 0x11211, 0x1), (0x11213, 0x11237, 0x1),
   (0x1123e, 0x1123e, 0x1), (0x11280, 0x11286, 0x1), (0x11288, 0x11288, 0x1),
   (0x1128a, 0x1128d, 0x1), (0x1128f, 0x1129d, 0x1), (0x1129f, 0x112a8, 0x1),
   (0x112b0, 0x112ea, 0x1), (0x112f0, 0x112f9, 0x1), (0x11300, 0x11303, 0x1),
   (0x11305, 0x1130c, 0x1), (0x1130f, 0x11310, 0x1), (0x11313, 0x11328, 0x1),
   (0x1132a, 0x11330, 0x1), (0x11332, 0x11333, 0x1), (0x11335, 0x11339, 0x1),
   (0x1133b, 0x11344, 0x1), (0x11347, 0x11348, 0x1), (0x1134b, 0x1134d, 0x1),
   (0x11350, 0x11350, 0x1), (0x11357, 0x11357, 0x1), (0x1135d, 0x11363, 0x1),
   (0x11366, 0x1136c, 0x1), (0x11370, 0x11374, 0x1), (0x11400, 0x1144a, 0x1),
   (0x11450, 0x11459, 0x1), (0x1145e, 0x11461, 0x1), (0x11480, 0x114c5, 0x1),
   (0x114c7, 0x114c7, 0x1), (0x114d0, 0x114d9, 0x1), (0x11580, 0x115b5, 0x1),
   (0x115b8, 0x115c0, 0x1), (0x115d8, 0x115dd, 0x1), (0x11600, 0x11640, 0x1),
   (0x11644, 0x11644, 0x1), (0x11650, 0x11659, 0x1), (0x11680, 0x116b8, 0x1),
   (0x116c0, 0x116c9, 0x1), (0x11700, 0x1171a, 0x1), (0x1171d, 0x1172b, 0x1),
   (0x11730, 0x11739, 0x1), (0x11740, 0x11746, 0x1), (0x11800, 0x1183a, 0x1),
   (0x118c0, 0x118e9, 0x1), (0x118ff, 0x11906, 0x1), (0x11909, 0x11909, 0x1),
   (0x1190c, 0x11913, 0x1), (0x11915, 0x11916, 0x1), (0x11918, 0x11935, 0x1),
   (0x11937, 0x11938, 0x1), (0x1193b, 0x11943, 0x1), (0x11950, 0x11959, 0x1),
   (0x119a0, 0x119a7, 0x1), (0x119aa, 0x119d7, 0x1), (0x119da, 0x119e1, 0x1),
   (0x119e3, 0x119e4, 0x1), (0x11a00, 0x11a3e, 0x1), (0x11a47, 0x11a47, 0x1),
   (0x11a50, 0x11a99, 0x1), (0x11a9d, 0x11a9d, 0x1), (0x11ab0, 0x11af8, 0x1),
   (0x11c00, 0x11c08, 0x1), (0x11c0a, 0x11c36, 0x1), (0x11c38, 0x11c40, 0x1),
   (0x11c50, 0x11c59, 0x1), (0x11c72, 0x11c8f, 0x1), (0x11c92, 0x11ca7, 0x1),
   (0x11ca9, 0x11cb6, 0x1), (0x11d00, 0x11d06, 0x1), (0x11d08, 0x11d09, 0x1),
   (0x11d0b, 0x11d36, 0x1), (0x11d3a, 0x11d3a, 0x1), (0x11d3c, 0x11d3d, 0x1),
   (0x11d3f, 0x11d47, 0x1), (0x11d50, 0x11d59, 0x1), (0x11d60, 0x11d65, 0x1),
   (0x11d67, 0x11d68, 0x1), (0x11d6a, 0x11d8e, 0x1), (0x11d90, 0x11d91, 0x1),
   (0x11d93, 0x11d98, 0x1), (0x11da0, 0x11da9, 0x1), (0x11ee0, 0x11ef6, 0x1),
   (0x11fb0, 0x11fb0, 0x1), (0x12000, 0x12399, 0x1), (0x12480, 0x12543, 0x1),
   (0x12f90, 0x12ff0, 0x1), (0x13000, 0x1342e, 0x1), (0x14400, 0x14646, 0x1),
   (0x16800, 0x16a38, 0x1), (0x16a40, 0x16a5e, 0x1), (0x16a60, 0x16a69, 0x1),
   (0x16a70, 0x16abe, 0x1), (0x16ac0, 0x16ac9, 0x1), (0x16ad0, 0x16aed, 0x1),
   (0x16af0, 0x16af4, 0x1), (0x16b00, 0x16b36, 0x1), (0x16b40, 0x16b43, 0x1),
   (0x16b50, 0x16b59, 0x1), (0x16b63, 0x16b77, 0x1), (0x16b7d, 0x16b8f, 0x1),
   (0x16e60, 0x16e7f, 0x1), (0x16f00, 0x16f4a, 0x1), (0x16f4f, 0x16f87, 0x1),
   (0x16f8f, 0x16f9f, 0x1), (0x16fe0, 0x16fe1, 0x1), (0x16fe3, 0x16fe4, 0x1),
   (0x16ff0, 0x16ff1, 0x1), (0x17000, 0x187f7, 0x1), (0x18800, 0x18cd5, 0x1),
   (0x18d00, 0x18d08, 0x1), (0x1aff0, 0x1aff3, 0x1), (0x1aff5, 0x1affb, 0x1),
   (0x1affd, 0x1affe, 0x1), (0x1b000, 0x1b122, 0x1), (0x1b150, 0x1b152, 0x1),
   (0x1b164, 0x1b167, 0x1), (0x1b170, 0x1b2fb, 0x1), (0x1bc00, 0x1bc6a, 0x1),
   (0x1bc70, 0x1bc7c, 0x1), (0x1bc80, 0x1bc88, 0x1), (0x1bc90, 0x1bc99, 0x1),
   (0x1bc9d, 0x1bc9e, 0x1), (0x1cf00, 0x1cf2d, 0x1), (0x1cf30, 0x1cf46, 0x1),
   (0x1da00, 0x1da36, 0x1), (0x1da3b, 0x1da6c, 0x1), (0x1da75, 0x1da75, 0x1),
   (0x1da84, 0x1da84, 0x1), (0x1da9b, 0x1da9f, 0x1), (0x1daa1, 0x1daaf, 0x1),
   (0x1df00, 0x1df1e, 0x1), (0x1e000, 0x1e006, 0x1), (0x1e008, 0x1e018, 0x1),
   (0x1e01b, 0x1e021, 0x1), (0x1e023, 0x1e024, 0x1), (0x1e026, 0x1e02a, 0x1),
   (0x1e100, 0x1e12c, 0x1), (0x1e130, 0x1e13d, 0x1), (0x1e140, 0x1e149, 0x1),
   (0x1e14e, 0x1e14e, 0x1), (0x1e290, 0x1e2ae, 0x1), (0x1e2c0, 0x1e2f9, 0x1),
   (0x1e7e0, 0x1e7e6, 0x1), (0x1e7e8, 0x1e7eb, 0x1), (0x1e7ed, 0x1e7ee, 0x1),
   (0x1e7f0, 0x1e7fe, 0x1), (0x1e800, 0x1e8c4, 0x1), (0x1e8d0, 0x1e8d6, 0x1),
   (0x1e922, 0x1e94b, 0x1), (0x1e950, 0x1e959, 0x1), (0x20000, 0x2a6df, 0x1),
   (0x2a700, 0x2b738, 0x1), (0x2b740, 0x2b81d, 0x1), (0x2b820, 0x2cea1, 0x1),
   (0x2ceb0, 0x2ebe0, 0x1), (0x30000, 0x3134a, 0x1)]

/-- The ranges of the marks. -/
def markRanges : Array (Nat × Nat) := #[
   (0x300, 0x33f), (0x342, 0x342), (0x346, 0x34e), (0x350, 0x36f), (0x483, 0x487),
   (0x591, 0x5bd), (0x5bf, 0x5bf), (0x5c1, 0x5c2), (0x5c4, 0x5c5), (0x5c7, 0x5c7),
   (0x610, 0x61a), (0x64b, 0x65f), (0x670, 0x670), (0x6d6, 0x6dc), (0x6df, 0x6e4),
   (0x6e7, 0x6e8), (0x6ea, 0x6ed), (0x711, 0x711), (0x730, 0x74a), (0x7a6, 0x7b0),
   (0x7eb, 0x7f3), (0x7fd, 0x7fd), (0x816, 0x819), (0x81b, 0x823), (0x825, 0x827),
   (0x829, 0x82d), (0x859, 0x85b), (0x898, 0x89f), (0x8ca, 0x8e1), (0x8e3, 0x903),
   (0x93a, 0x93c), (0x93e, 0x94f), (0x951, 0x957), (0x962, 0x963), (0x981, 0x983),
   (0x9bc, 0x9bc), (0x9be, 0x9c4), (0x9c7, 0x9c8), (0x9cb, 0x9cd), (0x9d7, 0x9d7),
   (0x9e2, 0x9e3), (0x9fe, 0x9fe), (0xa01, 0xa03), (0xa3c, 0xa3c), (0xa3e, 0xa42),
   (0xa47, 0xa48), (0xa4b, 0xa4d), (0xa51, 0xa51), (0xa70, 0xa71), (0xa75, 0xa75),
   (0xa81, 0xa83), (0xabc, 0xabc), (0xabe, 0xac5), (0xac7, 0xac9), (0xacb, 0xacd),
   (0xae2, 0xae3), (0xafa, 0xaff), (0xb01, 0xb03), (0xb3c, 0xb3c), (0xb3e, 0xb44),
   (0xb47, 0xb48), (0xb4b, 0xb4d), (0xb55, 0xb57), (0xb62, 0xb63), (0xb82, 0xb82),
   (0xbbe, 0xbc2), (0xbc6, 0xbc8), (0xbca, 0xbcd), (0xbd7, 0xbd7), (0xc00, 0xc04),
   (0xc3c, 0xc3c), (0xc3e, 0xc44), (0xc46, 0xc48), (0xc4a, 0xc4d), (0xc55, 0xc56),
   (0xc62, 0xc63), (0xc81, 0xc83), (0xcbc, 0xcbc), (0xcbe, 0xcc4), (0xcc6, 0xcc8),
   (0xcca, 0xccd), (0xcd5, 0xcd6), (0xce2, 0xce3), (0xd00, 0xd03), (0xd3b, 0xd3c),
   (0xd3e, 0xd44), (0xd46, 0xd48), (0xd4a, 0xd4d), (0xd57, 0xd57), (0xd62, 0xd63),
   (0xd81, 0xd83), (0xdca, 0xdca), (0xdcf, 0xdd4), (0xdd6, 0xdd6), (0xdd8, 0xddf),
   (0xdf2, 0xdf3), (0xe31, 0xe31), (0xe34, 0xe3a), (0xe47, 0xe4e), (0xeb1, 0xeb1),
   (0xeb4, 0xebc), (0xec8, 0xecd), (0xf18, 0xf19), (0xf35, 0xf35), (0xf37, 0xf37),
   (0xf39, 0xf39), (0xf3e, 0xf3f), (0xf71, 0xf72), (0xf74, 0xf74), (0xf7a, 0xf80),
   (0xf82, 0xf84), (0xf86, 0xf87), (0xf8d, 0xf92), (0xf94, 0xf97), (0xf99, 0xf9c),
   (0xf9e, 0xfa1), (0xfa3, 0xfa6), (0xfa8, 0xfab), (0xfad, 0xfb8), (0xfba, 0xfbc),
   (0xfc6, 0xfc6), (0x102b, 0x103e), (0x1056, 0x1059), (0x105e, 0x1060), (0x1062, 0x1064),
   (0x1067, 0x106d), (0x1071, 0x1074), (0x1082, 0x108d), (0x108f, 0x108f), (0x109a, 0x109d),
   (0x135d, 0x135f), (0x1712, 0x1715), (0x1732, 0x1734), (0x1752, 0x1753), (0x1772, 0x1773),
   (0x17b6, 0x17d3), (0x17dd, 0x17dd), (0x1885, 0x1886), (0x18a9, 0x18a9), (0x1920, 0x192b),
   (0x1930, 0x193b), (0x1a17, 0x1a1b), (0x1a55, 0x1a5e), (0x1a60, 0x1a7c), (0x1a7f, 0x1a7f),
   (0x1ab0, 0x1abd), (0x1abf, 0x1ace), (0x1b00, 0x1b04), (0x1b34, 0x1b44), (0x1b6b, 0x1b73),
   (0x1b80, 0x1b82), (0x1ba1, 0x1bad), (0x1be6, 0x1bf3), (0x1c24, 0x1c37), (0x1cd0, 0x1cd2),
   (0x1cd4, 0x1ce8), (0x1ced, 0x1ced), (0x1cf4, 0x1cf4), (0x1cf7, 0x1cf9), (0x1dc0, 0x1dff),
   (0x2cef, 0x2cf1), (0x2d7f, 0x2d7f), (0x2de0, 0x2dff), (0x302a, 0x302d), (0x3099, 0x309a),
   (0xa66f, 0xa66f), (0xa674, 0xa67d), (0xa69e, 0xa69f), (0xa6f0, 0xa6f1), (0xa802, 0xa802),
   (0xa806, 0xa806), (0xa80b, 0xa80b), (0xa823, 0xa827), (0xa82c, 0xa82c), (0xa880, 0xa881),
   (0xa8b4, 0xa8c5), (0xa8e0, 0xa8f1), (0xa8ff, 0xa8ff), (0xa926, 0xa92d), (0xa947, 0xa953),
   (0xa980, 0xa983), (0xa9b3, 0xa9c0), (0xa9e5, 0xa9e5), (0xaa29, 0xaa36), (0xaa43, 0xaa43),
   (0xaa4c, 0xaa4d), (0xaa7b, 0xaa7d), (0xaab0, 0xaab0), (0xaab2, 0xaab4), (0xaab7, 0xaab8),
   (0xaabe, 0xaabf), (0xaac1, 0xaac1), (0xaaeb, 0xaaef), (0xaaf5, 0xaaf6), (0xabe3, 0xabea),
   (0xabec, 0xabed), (0xfb1e, 0xfb1e), (0xfe20, 0xfe2f), (0x101fd, 0x101fd),
   (0x102e0, 0x102e0), (0x10376, 0x1037a), (0x10a01, 0x10a03), (0x10a05, 0x10a06),
   (0x10a0c, 0x10a0f), (0x10a38, 0x10a3a), (0x10a3f, 0x10a3f), (0x10ae5, 0x10ae6),
   (0x10d24, 0x10d27), (0x10eab, 0x10eac), (0x10f46, 0x10f50), (0x10f82, 0x10f85),
   (0x11000, 0x11002), (0x11038, 0x11046), (0x11070, 0x11070), (0x11073, 0x11074),
   (0x1107f, 0x11082), (0x110b0, 0x110ba), (0x110c2, 0x110c2), (0x11100, 0x11102),
   (0x11127, 0x11134), (0x11145, 0x11146), (0x11173, 0x11173), (0x11180, 0x11182),
   (0x111b3, 0x111c0), (0x111c9, 0x111cc), (0x111ce, 0x111cf), (0x1122c, 0x11237),
   (0x1123e, 0x1123e), (0x112df, 0x112ea), (0x11300, 0x11303), (0x1133b, 0x1133c),
   (0x1133e, 0x11344), (0x11347, 0x11348), (0x1134b, 0x1134d), (0x11357, 0x11357),
   (0x11362, 0x11363), (0x11366, 0x1136c), (0x11370, 0x11374), (0x11435, 0x11446),
   (0x1145e, 0x1145e), (0x114b0, 0x114c3), (0x115af, 0x115b5), (0x115b8, 0x115c0),
   (0x115dc, 0x115dd), (0x11630, 0x11640), (0x116ab, 0x116b7), (0x1171d, 0x1172b),
   (0x1182c, 0x1183a), (0x11930, 0x11935), (0x11937, 0x11938), (0x1193b, 0x1193e),
   (0x11940, 0x11940), (0x11942, 0x11943), (0x119d1, 0x119d7), (0x119da, 0x119e0),
   (0x119e4, 0x119e4), (0x11a01, 0x11a0a), (0x11a33, 0x11a39), (0x11a3b, 0x11a3e),
   (0x11a47, 0x11a47), (0x11a51, 0x11a5b), (0x11a8a, 0x11a99), (0x11c2f, 0x11c36),
   (0x11c38, 0x11c3f), (0x11c92, 0x11ca7), (0x11ca9, 0x11cb6), (0x11d31, 0x11d36),
   (0x11d3a, 0x11d3a), (0x11d3c, 0x11d3d), (0x11d3f, 0x11d45), (0x11d47, 0x11d47),
   (0x11d8a, 0x11d8e), (0x11d90, 0x11d91), (0x11d93, 0x11d97), (0x11ef3, 0x11ef6),
   (0x16af0, 0x16af4), (0x16b30, 0x16b36), (0x16f4f, 0x16f4f), (0x16f51, 0x16f87),
   (0x16f8f, 0x16f92), (0x16fe4, 0x16fe4), (0x16ff0, 0x16ff1), (0x1bc9d, 0x1bc9e),
   (0x1cf00, 0x1cf2d), (0x1cf30, 0x1cf46), (0x1da00, 0x1da36), (0x1da3b, 0x1da6c),
   (0x1da75, 0x1da75), (0x1da84, 0x1da84), (0x1da9b, 0x1da9f), (0x1daa1, 0x1daaf),
   (0x1e000, 0x1e006), (0x1e008, 0x1e018), (0x1e01b, 0x1e021), (0x1e023, 0x1e024),
   (0x1e026, 0x1e02a), (0x1e130, 0x1e136), (0x1e2ae, 0x1e2ae), (0x1e2ec, 0x1e2ef),
   (0x1e8d0, 0x1e8d6), (0x1e944, 0x1e94a)]

/-- The ranges of the Greek letters. -/
def greekRanges : Array (Nat × Nat) := #[
   (0x371, 0x371), (0x373, 0x373), (0x375, 0x375), (0x377, 0x377), (0x37b, 0x37d),
   (0x390, 0x390), (0x3ac, 0x3ce), (0x3d7, 0x3d7), (0x3d9, 0x3d9), (0x3db, 0x3db),
   (0x3dd, 0x3dd), (0x3df, 0x3df), (0x3e1, 0x3e1), (0x3f3, 0x3f3), (0x3f8, 0x3f8),
   (0x3fb, 0x3fc), (0x1d26, 0x1d2a), (0x1f00, 0x1f07), (0x1f10, 0x1f15), (0x1f20, 0x1f27),
   (0x1f30, 0x1f37), (0x1f40, 0x1f45), (0x1f50, 0x1f57), (0x1f60, 0x1f67), (0x1f70, 0x1f70),
   (0x1f72, 0x1f72), (0x1f74, 0x1f74), (0x1f76, 0x1f76), (0x1f78, 0x1f78), (0x1f7a, 0x1f7a),
   (0x1f7c, 0x1f7c), (0x1fb0, 0x1fb1), (0x1fb6, 0x1fb6), (0x1fc6, 0x1fc6), (0x1fd0, 0x1fd2),
   (0x1fd6, 0x1fd7), (0x1fe0, 0x1fe2), (0x1fe4, 0x1fe7), (0x1ff6, 0x1ff6), (0xab65, 0xab65)]

/-- The ranges of the Hebrew letters. -/
def hebrewRanges : Array (Nat × Nat) := #[
   (0x591, 0x5bd), (0x5bf, 0x5bf), (0x5c1, 0x5c2), (0x5c4, 0x5c5), (0x5c7, 0x5c7),
   (0x5d0, 0x5ea), (0x5ef, 0x5f4), (0xfb1e, 0xfb1e)]

/-- The ranges of the letters of which Japanese is written. -/
def japaneseRanges : Array (Nat × Nat) := #[
   (0x3005, 0x3005), (0x3007, 0x3007), (0x3041, 0x3096), (0x309d, 0x309e), (0x30a1, 0x30fa),
   (0x30fd, 0x30fe), (0x31f0, 0x31ff), (0x3400, 0x4dbf), (0x4e00, 0x9fff), (0xfa0e, 0xfa0f),
   (0xfa11, 0xfa11), (0xfa13, 0xfa14), (0xfa1f, 0xfa1f), (0xfa21, 0xfa21), (0xfa23, 0xfa24),
   (0xfa27, 0xfa29), (0x16fe3, 0x16fe3), (0x16ff0, 0x16ff1), (0x1aff0, 0x1aff3),
   (0x1aff5, 0x1affb), (0x1affd, 0x1affe), (0x1b000, 0x1b000), (0x1b001, 0x1b11f),
   (0x1b120, 0x1b122), (0x1b150, 0x1b152), (0x1b164, 0x1b167), (0x20000, 0x2a6df),
   (0x2a700, 0x2b738), (0x2b740, 0x2b81d), (0x2b820, 0x2cea1), (0x2ceb0, 0x2ebe0),
   (0x30000, 0x3134a)]

/-- Can the character stand anywhere in a name? -/
def isLetter (c : Char) : Bool :=
  letterSteps.any fun (first, last, width) => Text.isReached first last width c

/-- Is the character a mark? -/
def isMark (c : Char) : Bool := Text.inRanges markRanges c

/-- Is the character Greek? -/
def isGreek (c : Char) : Bool := Text.inRanges greekRanges c

/-- Is the character Hebrew? -/
def isHebrew (c : Char) : Bool := Text.inRanges hebrewRanges c

/-- Is the character one of those of which Japanese is written? -/
def isJapanese (c : Char) : Bool := Text.inRanges japaneseRanges c

end VisualNovel.Http.Host
