import DonationPage.Text.Printable
/-! How the names of hosts are spelled: the characters that say nothing in a name, those that stand for
others, and those that no name may hold. The tables are those of the Unicode standard for names of
hosts, in its version 17, with what stands for characters beyond the first 128 kept as it is written. -/
namespace DonationPage

def silentRuns : CharRuns := [
  (0xAD, 0xAD), (0x34F, 0x34F), (0x115F, 0x1160), (0x17B4, 0x17B5), (0x180B, 0x180F),
  (0x200B, 0x200B), (0x2060, 0x2064), (0x206A, 0x206F), (0x3164, 0x3164), (0xFE00, 0xFE0F),
  (0xFEFF, 0xFEFF), (0xFFA0, 0xFFA0), (0x1BCA0, 0x1BCA3), (0x1D173, 0x1D17A), (0xE0100, 0xE01EF)]

/-- Runs of characters that stand for runs of the first 128 characters, with the first of these. -/
def plainRuns : List (Nat × Nat × Nat) := [
  (0xA0, 0xA0, 0x20), (0xAA, 0xAA, 0x61), (0xB2, 0xB3, 0x32), (0xB9, 0xB9, 0x31),
  (0xBA, 0xBA, 0x6F), (0x17F, 0x17F, 0x73), (0x2B0, 0x2B0, 0x68), (0x2B2, 0x2B2, 0x6A),
  (0x2B3, 0x2B3, 0x72), (0x2B7, 0x2B7, 0x77), (0x2B8, 0x2B8, 0x79), (0x2E1, 0x2E1, 0x6C),
  (0x2E2, 0x2E2, 0x73), (0x2E3, 0x2E3, 0x78), (0x37E, 0x37E, 0x3B), (0x1D2C, 0x1D2C, 0x61),
  (0x1D2E, 0x1D2E, 0x62), (0x1D30, 0x1D31, 0x64), (0x1D33, 0x1D3A, 0x67), (0x1D3C, 0x1D3C, 0x6F),
  (0x1D3E, 0x1D3E, 0x70), (0x1D3F, 0x1D3F, 0x72), (0x1D40, 0x1D41, 0x74), (0x1D42, 0x1D42, 0x77),
  (0x1D43, 0x1D43, 0x61), (0x1D47, 0x1D47, 0x62), (0x1D48, 0x1D49, 0x64), (0x1D4D, 0x1D4D, 0x67),
  (0x1D4F, 0x1D4F, 0x6B), (0x1D50, 0x1D50, 0x6D), (0x1D52, 0x1D52, 0x6F), (0x1D56, 0x1D56, 0x70),
  (0x1D57, 0x1D58, 0x74), (0x1D5B, 0x1D5B, 0x76), (0x1D62, 0x1D62, 0x69), (0x1D63, 0x1D63, 0x72),
  (0x1D64, 0x1D65, 0x75), (0x1D9C, 0x1D9C, 0x63), (0x1DA0, 0x1DA0, 0x66), (0x1DBB, 0x1DBB, 0x7A),
  (0x1FEF, 0x1FEF, 0x60), (0x2000, 0x2000, 0x20), (0x2001, 0x2001, 0x20), (0x2002, 0x2002, 0x20),
  (0x2003, 0x2003, 0x20), (0x2004, 0x2004, 0x20), (0x2005, 0x2005, 0x20), (0x2006, 0x2006, 0x20),
  (0x2007, 0x2007, 0x20), (0x2008, 0x2008, 0x20), (0x2009, 0x2009, 0x20), (0x200A, 0x200A, 0x20),
  (0x202F, 0x202F, 0x20), (0x205F, 0x205F, 0x20), (0x2070, 0x2070, 0x30), (0x2071, 0x2071, 0x69),
  (0x2074, 0x2079, 0x34), (0x207A, 0x207A, 0x2B), (0x207C, 0x207C, 0x3D), (0x207D, 0x207E, 0x28),
  (0x207F, 0x207F, 0x6E), (0x2080, 0x2089, 0x30), (0x208A, 0x208A, 0x2B), (0x208C, 0x208C, 0x3D),
  (0x208D, 0x208E, 0x28), (0x2090, 0x2090, 0x61), (0x2091, 0x2091, 0x65), (0x2092, 0x2092, 0x6F),
  (0x2093, 0x2093, 0x78), (0x2095, 0x2095, 0x68), (0x2096, 0x2099, 0x6B), (0x209A, 0x209A, 0x70),
  (0x209B, 0x209C, 0x73), (0x2102, 0x2102, 0x63), (0x210A, 0x210B, 0x67), (0x210C, 0x210C, 0x68),
  (0x210D, 0x210D, 0x68), (0x210E, 0x210E, 0x68), (0x2110, 0x2110, 0x69), (0x2111, 0x2111, 0x69),
  (0x2112, 0x2112, 0x6C), (0x2113, 0x2113, 0x6C), (0x2115, 0x2115, 0x6E), (0x2119, 0x211B, 0x70),
  (0x211C, 0x211C, 0x72), (0x211D, 0x211D, 0x72), (0x2124, 0x2124, 0x7A), (0x2128, 0x2128, 0x7A),
  (0x212A, 0x212A, 0x6B), (0x212C, 0x212D, 0x62), (0x212F, 0x212F, 0x65), (0x2130, 0x2131, 0x65),
  (0x2133, 0x2133, 0x6D), (0x2134, 0x2134, 0x6F), (0x2139, 0x2139, 0x69), (0x2145, 0x2145, 0x64),
  (0x2146, 0x2147, 0x64), (0x2148, 0x2149, 0x69), (0x2160, 0x2160, 0x69), (0x2164, 0x2164, 0x76),
  (0x2169, 0x2169, 0x78), (0x216C, 0x216C, 0x6C), (0x216D, 0x216E, 0x63), (0x216F, 0x216F, 0x6D),
  (0x2170, 0x2170, 0x69), (0x2174, 0x2174, 0x76), (0x2179, 0x2179, 0x78), (0x217C, 0x217C, 0x6C),
  (0x217D, 0x217E, 0x63), (0x217F, 0x217F, 0x6D), (0x2460, 0x2468, 0x31), (0x24B6, 0x24CF, 0x61),
  (0x24D0, 0x24E9, 0x61), (0x24EA, 0x24EA, 0x30), (0x2C7C, 0x2C7C, 0x6A), (0x2C7D, 0x2C7D, 0x76),
  (0x3000, 0x3000, 0x20), (0x3002, 0x3002, 0x2E), (0xA7F1, 0xA7F1, 0x73), (0xA7F2, 0xA7F2, 0x63),
  (0xA7F3, 0xA7F3, 0x66), (0xA7F4, 0xA7F4, 0x71), (0xFB29, 0xFB29, 0x2B), (0xFE10, 0xFE10, 0x2C),
  (0xFE13, 0xFE14, 0x3A), (0xFE15, 0xFE15, 0x21), (0xFE16, 0xFE16, 0x3F), (0xFE33, 0xFE33, 0x5F),
  (0xFE34, 0xFE34, 0x5F), (0xFE35, 0xFE36, 0x28), (0xFE37, 0xFE37, 0x7B), (0xFE38, 0xFE38, 0x7D),
  (0xFE47, 0xFE47, 0x5B), (0xFE48, 0xFE48, 0x5D), (0xFE4D, 0xFE4D, 0x5F), (0xFE4E, 0xFE4E, 0x5F),
  (0xFE4F, 0xFE4F, 0x5F), (0xFE50, 0xFE50, 0x2C), (0xFE54, 0xFE54, 0x3B), (0xFE55, 0xFE55, 0x3A),
  (0xFE56, 0xFE56, 0x3F), (0xFE57, 0xFE57, 0x21), (0xFE59, 0xFE5A, 0x28), (0xFE5B, 0xFE5B, 0x7B),
  (0xFE5C, 0xFE5C, 0x7D), (0xFE5F, 0xFE5F, 0x23), (0xFE60, 0xFE60, 0x26), (0xFE61, 0xFE62, 0x2A),
  (0xFE63, 0xFE63, 0x2D), (0xFE64, 0xFE64, 0x3C), (0xFE65, 0xFE65, 0x3E), (0xFE66, 0xFE66, 0x3D),
  (0xFE68, 0xFE68, 0x5C), (0xFE69, 0xFE6A, 0x24), (0xFE6B, 0xFE6B, 0x40), (0xFF01, 0xFF20, 0x21),
  (0xFF21, 0xFF3A, 0x61), (0xFF3B, 0xFF5E, 0x5B), (0xFF61, 0xFF61, 0x2E),
  (0x107A5, 0x107A5, 0x71), (0x1CCD6, 0x1CCEF, 0x61), (0x1CCF0, 0x1CCF9, 0x30),
  (0x1D400, 0x1D419, 0x61), (0x1D41A, 0x1D433, 0x61), (0x1D434, 0x1D44D, 0x61),
  (0x1D44E, 0x1D454, 0x61), (0x1D456, 0x1D467, 0x69), (0x1D468, 0x1D481, 0x61),
  (0x1D482, 0x1D49B, 0x61), (0x1D49C, 0x1D49C, 0x61), (0x1D49E, 0x1D49F, 0x63),
  (0x1D4A2, 0x1D4A2, 0x67), (0x1D4A5, 0x1D4A6, 0x6A), (0x1D4A9, 0x1D4AC, 0x6E),
  (0x1D4AE, 0x1D4B5, 0x73), (0x1D4B6, 0x1D4B9, 0x61), (0x1D4BB, 0x1D4BB, 0x66),
  (0x1D4BD, 0x1D4C3, 0x68), (0x1D4C5, 0x1D4CF, 0x70), (0x1D4D0, 0x1D4E9, 0x61),
  (0x1D4EA, 0x1D503, 0x61), (0x1D504, 0x1D505, 0x61), (0x1D507, 0x1D50A, 0x64),
  (0x1D50D, 0x1D514, 0x6A), (0x1D516, 0x1D51C, 0x73), (0x1D51E, 0x1D537, 0x61),
  (0x1D538, 0x1D539, 0x61), (0x1D53B, 0x1D53E, 0x64), (0x1D540, 0x1D544, 0x69),
  (0x1D546, 0x1D546, 0x6F), (0x1D54A, 0x1D550, 0x73), (0x1D552, 0x1D56B, 0x61),
  (0x1D56C, 0x1D585, 0x61), (0x1D586, 0x1D59F, 0x61), (0x1D5A0, 0x1D5B9, 0x61),
  (0x1D5BA, 0x1D5D3, 0x61), (0x1D5D4, 0x1D5ED, 0x61), (0x1D5EE, 0x1D607, 0x61),
  (0x1D608, 0x1D621, 0x61), (0x1D622, 0x1D63B, 0x61), (0x1D63C, 0x1D655, 0x61),
  (0x1D656, 0x1D66F, 0x61), (0x1D670, 0x1D689, 0x61), (0x1D68A, 0x1D6A3, 0x61),
  (0x1D7CE, 0x1D7D7, 0x30), (0x1D7D8, 0x1D7E1, 0x30), (0x1D7E2, 0x1D7EB, 0x30),
  (0x1D7EC, 0x1D7F5, 0x30), (0x1D7F6, 0x1D7FF, 0x30), (0x1F12B, 0x1F12B, 0x63),
  (0x1F12C, 0x1F12C, 0x72), (0x1F130, 0x1F149, 0x61), (0x1FBF0, 0x1FBF9, 0x30)]

def plainTexts : List (Nat × String) := [
  (0xA8, " \u0308"), (0xAF, " \u0304"), (0xB4, " \u0301"), (0xB8, " \u0327"), (0xBC, "1\u20444"),
  (0xBD, "1\u20442"), (0xBE, "3\u20444"), (0x130, "i\u0307"), (0x132, "ij"), (0x133, "ij"),
  (0x13F, "l\u00B7"), (0x140, "l\u00B7"), (0x149, "\u02BCn"), (0x1C4, "d\u017E"),
  (0x1C5, "d\u017E"), (0x1C6, "d\u017E"), (0x1C7, "lj"), (0x1C8, "lj"), (0x1C9, "lj"),
  (0x1CA, "nj"), (0x1CB, "nj"), (0x1CC, "nj"), (0x1F1, "dz"), (0x1F2, "dz"), (0x1F3, "dz"),
  (0x2D8, " \u0306"), (0x2D9, " \u0307"), (0x2DA, " \u030A"), (0x2DB, " \u0328"),
  (0x2DC, " \u0303"), (0x2DD, " \u030B"), (0x37A, " \u03B9"), (0x384, " \u0301"),
  (0x385, " \u0308\u0301"), (0x1E9A, "a\u02BE"), (0x1FBD, " \u0313"), (0x1FBF, " \u0313"),
  (0x1FC0, " \u0342"), (0x1FC1, " \u0308\u0342"), (0x1FCD, " \u0313\u0300"),
  (0x1FCE, " \u0313\u0301"), (0x1FCF, " \u0313\u0342"), (0x1FDD, " \u0314\u0300"),
  (0x1FDE, " \u0314\u0301"), (0x1FDF, " \u0314\u0342"), (0x1FED, " \u0308\u0300"),
  (0x1FEE, " \u0308\u0301"), (0x1FFD, " \u0301"), (0x1FFE, " \u0314"), (0x2017, " \u0333"),
  (0x203C, "!!"), (0x203E, " \u0305"), (0x2047, "??"), (0x2048, "?!"), (0x2049, "!?"),
  (0x20A8, "rs"), (0x2100, "a/c"), (0x2101, "a/s"), (0x2103, "\u00B0c"), (0x2105, "c/o"),
  (0x2106, "c/u"), (0x2109, "\u00B0f"), (0x2116, "no"), (0x2120, "sm"), (0x2121, "tel"),
  (0x2122, "tm"), (0x213B, "fax"), (0x2150, "1\u20447"), (0x2151, "1\u20449"),
  (0x2152, "1\u204410"), (0x2153, "1\u20443"), (0x2154, "2\u20443"), (0x2155, "1\u20445"),
  (0x2156, "2\u20445"), (0x2157, "3\u20445"), (0x2158, "4\u20445"), (0x2159, "1\u20446"),
  (0x215A, "5\u20446"), (0x215B, "1\u20448"), (0x215C, "3\u20448"), (0x215D, "5\u20448"),
  (0x215E, "7\u20448"), (0x215F, "1\u2044"), (0x2161, "ii"), (0x2162, "iii"), (0x2163, "iv"),
  (0x2165, "vi"), (0x2166, "vii"), (0x2167, "viii"), (0x2168, "ix"), (0x216A, "xi"),
  (0x216B, "xii"), (0x2171, "ii"), (0x2172, "iii"), (0x2173, "iv"), (0x2175, "vi"),
  (0x2176, "vii"), (0x2177, "viii"), (0x2178, "ix"), (0x217A, "xi"), (0x217B, "xii"),
  (0x2189, "0\u20443"), (0x2469, "10"), (0x246A, "11"), (0x246B, "12"), (0x246C, "13"),
  (0x246D, "14"), (0x246E, "15"), (0x246F, "16"), (0x2470, "17"), (0x2471, "18"), (0x2472, "19"),
  (0x2473, "20"), (0x2474, "(1)"), (0x2475, "(2)"), (0x2476, "(3)"), (0x2477, "(4)"),
  (0x2478, "(5)"), (0x2479, "(6)"), (0x247A, "(7)"), (0x247B, "(8)"), (0x247C, "(9)"),
  (0x247D, "(10)"), (0x247E, "(11)"), (0x247F, "(12)"), (0x2480, "(13)"), (0x2481, "(14)"),
  (0x2482, "(15)"), (0x2483, "(16)"), (0x2484, "(17)"), (0x2485, "(18)"), (0x2486, "(19)"),
  (0x2487, "(20)"), (0x249C, "(a)"), (0x249D, "(b)"), (0x249E, "(c)"), (0x249F, "(d)"),
  (0x24A0, "(e)"), (0x24A1, "(f)"), (0x24A2, "(g)"), (0x24A3, "(h)"), (0x24A4, "(i)"),
  (0x24A5, "(j)"), (0x24A6, "(k)"), (0x24A7, "(l)"), (0x24A8, "(m)"), (0x24A9, "(n)"),
  (0x24AA, "(o)"), (0x24AB, "(p)"), (0x24AC, "(q)"), (0x24AD, "(r)"), (0x24AE, "(s)"),
  (0x24AF, "(t)"), (0x24B0, "(u)"), (0x24B1, "(v)"), (0x24B2, "(w)"), (0x24B3, "(x)"),
  (0x24B4, "(y)"), (0x24B5, "(z)"), (0x2A74, "::="), (0x2A75, "=="), (0x2A76, "==="),
  (0x309B, " \u3099"), (0x309C, " \u309A"), (0x3200, "(\u1100)"), (0x3201, "(\u1102)"),
  (0x3202, "(\u1103)"), (0x3203, "(\u1105)"), (0x3204, "(\u1106)"), (0x3205, "(\u1107)"),
  (0x3206, "(\u1109)"), (0x3207, "(\u110B)"), (0x3208, "(\u110C)"), (0x3209, "(\u110E)"),
  (0x320A, "(\u110F)"), (0x320B, "(\u1110)"), (0x320C, "(\u1111)"), (0x320D, "(\u1112)"),
  (0x320E, "(\uAC00)"), (0x320F, "(\uB098)"), (0x3210, "(\uB2E4)"), (0x3211, "(\uB77C)"),
  (0x3212, "(\uB9C8)"), (0x3213, "(\uBC14)"), (0x3214, "(\uC0AC)"), (0x3215, "(\uC544)"),
  (0x3216, "(\uC790)"), (0x3217, "(\uCC28)"), (0x3218, "(\uCE74)"), (0x3219, "(\uD0C0)"),
  (0x321A, "(\uD30C)"), (0x321B, "(\uD558)"), (0x321C, "(\uC8FC)"), (0x321D, "(\uC624\uC804)"),
  (0x321E, "(\uC624\uD6C4)"), (0x3220, "(\u4E00)"), (0x3221, "(\u4E8C)"), (0x3222, "(\u4E09)"),
  (0x3223, "(\u56DB)"), (0x3224, "(\u4E94)"), (0x3225, "(\u516D)"), (0x3226, "(\u4E03)"),
  (0x3227, "(\u516B)"), (0x3228, "(\u4E5D)"), (0x3229, "(\u5341)"), (0x322A, "(\u6708)"),
  (0x322B, "(\u706B)"), (0x322C, "(\u6C34)"), (0x322D, "(\u6728)"), (0x322E, "(\u91D1)"),
  (0x322F, "(\u571F)"), (0x3230, "(\u65E5)"), (0x3231, "(\u682A)"), (0x3232, "(\u6709)"),
  (0x3233, "(\u793E)"), (0x3234, "(\u540D)"), (0x3235, "(\u7279)"), (0x3236, "(\u8CA1)"),
  (0x3237, "(\u795D)"), (0x3238, "(\u52B4)"), (0x3239, "(\u4EE3)"), (0x323A, "(\u547C)"),
  (0x323B, "(\u5B66)"), (0x323C, "(\u76E3)"), (0x323D, "(\u4F01)"), (0x323E, "(\u8CC7)"),
  (0x323F, "(\u5354)"), (0x3240, "(\u796D)"), (0x3241, "(\u4F11)"), (0x3242, "(\u81EA)"),
  (0x3243, "(\u81F3)"), (0x3250, "pte"), (0x3251, "21"), (0x3252, "22"), (0x3253, "23"),
  (0x3254, "24"), (0x3255, "25"), (0x3256, "26"), (0x3257, "27"), (0x3258, "28"), (0x3259, "29"),
  (0x325A, "30"), (0x325B, "31"), (0x325C, "32"), (0x325D, "33"), (0x325E, "34"), (0x325F, "35"),
  (0x32B1, "36"), (0x32B2, "37"), (0x32B3, "38"), (0x32B4, "39"), (0x32B5, "40"), (0x32B6, "41"),
  (0x32B7, "42"), (0x32B8, "43"), (0x32B9, "44"), (0x32BA, "45"), (0x32BB, "46"), (0x32BC, "47"),
  (0x32BD, "48"), (0x32BE, "49"), (0x32BF, "50"), (0x32C0, "1\u6708"), (0x32C1, "2\u6708"),
  (0x32C2, "3\u6708"), (0x32C3, "4\u6708"), (0x32C4, "5\u6708"), (0x32C5, "6\u6708"),
  (0x32C6, "7\u6708"), (0x32C7, "8\u6708"), (0x32C8, "9\u6708"), (0x32C9, "10\u6708"),
  (0x32CA, "11\u6708"), (0x32CB, "12\u6708"), (0x32CC, "hg"), (0x32CD, "erg"), (0x32CE, "ev"),
  (0x32CF, "ltd"), (0x3358, "0\u70B9"), (0x3359, "1\u70B9"), (0x335A, "2\u70B9"),
  (0x335B, "3\u70B9"), (0x335C, "4\u70B9"), (0x335D, "5\u70B9"), (0x335E, "6\u70B9"),
  (0x335F, "7\u70B9"), (0x3360, "8\u70B9"), (0x3361, "9\u70B9"), (0x3362, "10\u70B9"),
  (0x3363, "11\u70B9"), (0x3364, "12\u70B9"), (0x3365, "13\u70B9"), (0x3366, "14\u70B9"),
  (0x3367, "15\u70B9"), (0x3368, "16\u70B9"), (0x3369, "17\u70B9"), (0x336A, "18\u70B9"),
  (0x336B, "19\u70B9"), (0x336C, "20\u70B9"), (0x336D, "21\u70B9"), (0x336E, "22\u70B9"),
  (0x336F, "23\u70B9"), (0x3370, "24\u70B9"), (0x3371, "hpa"), (0x3372, "da"), (0x3373, "au"),
  (0x3374, "bar"), (0x3375, "ov"), (0x3376, "pc"), (0x3377, "dm"), (0x3378, "dm2"),
  (0x3379, "dm3"), (0x337A, "iu"), (0x3380, "pa"), (0x3381, "na"), (0x3382, "\u03BCa"),
  (0x3383, "ma"), (0x3384, "ka"), (0x3385, "kb"), (0x3386, "mb"), (0x3387, "gb"), (0x3388, "cal"),
  (0x3389, "kcal"), (0x338A, "pf"), (0x338B, "nf"), (0x338C, "\u03BCf"), (0x338D, "\u03BCg"),
  (0x338E, "mg"), (0x338F, "kg"), (0x3390, "hz"), (0x3391, "khz"), (0x3392, "mhz"),
  (0x3393, "ghz"), (0x3394, "thz"), (0x3395, "\u03BCl"), (0x3396, "ml"), (0x3397, "dl"),
  (0x3398, "kl"), (0x3399, "fm"), (0x339A, "nm"), (0x339B, "\u03BCm"), (0x339C, "mm"),
  (0x339D, "cm"), (0x339E, "km"), (0x339F, "mm2"), (0x33A0, "cm2"), (0x33A1, "m2"),
  (0x33A2, "km2"), (0x33A3, "mm3"), (0x33A4, "cm3"), (0x33A5, "m3"), (0x33A6, "km3"),
  (0x33A7, "m\u2215s"), (0x33A8, "m\u2215s2"), (0x33A9, "pa"), (0x33AA, "kpa"), (0x33AB, "mpa"),
  (0x33AC, "gpa"), (0x33AD, "rad"), (0x33AE, "rad\u2215s"), (0x33AF, "rad\u2215s2"),
  (0x33B0, "ps"), (0x33B1, "ns"), (0x33B2, "\u03BCs"), (0x33B3, "ms"), (0x33B4, "pv"),
  (0x33B5, "nv"), (0x33B6, "\u03BCv"), (0x33B7, "mv"), (0x33B8, "kv"), (0x33B9, "mv"),
  (0x33BA, "pw"), (0x33BB, "nw"), (0x33BC, "\u03BCw"), (0x33BD, "mw"), (0x33BE, "kw"),
  (0x33BF, "mw"), (0x33C0, "k\u03C9"), (0x33C1, "m\u03C9"), (0x33C3, "bq"), (0x33C4, "cc"),
  (0x33C5, "cd"), (0x33C6, "c\u2215kg"), (0x33C8, "db"), (0x33C9, "gy"), (0x33CA, "ha"),
  (0x33CB, "hp"), (0x33CC, "in"), (0x33CD, "kk"), (0x33CE, "km"), (0x33CF, "kt"), (0x33D0, "lm"),
  (0x33D1, "ln"), (0x33D2, "log"), (0x33D3, "lx"), (0x33D4, "mb"), (0x33D5, "mil"),
  (0x33D6, "mol"), (0x33D7, "ph"), (0x33D9, "ppm"), (0x33DA, "pr"), (0x33DB, "sr"),
  (0x33DC, "sv"), (0x33DD, "wb"), (0x33DE, "v\u2215m"), (0x33DF, "a\u2215m"), (0x33E0, "1\u65E5"),
  (0x33E1, "2\u65E5"), (0x33E2, "3\u65E5"), (0x33E3, "4\u65E5"), (0x33E4, "5\u65E5"),
  (0x33E5, "6\u65E5"), (0x33E6, "7\u65E5"), (0x33E7, "8\u65E5"), (0x33E8, "9\u65E5"),
  (0x33E9, "10\u65E5"), (0x33EA, "11\u65E5"), (0x33EB, "12\u65E5"), (0x33EC, "13\u65E5"),
  (0x33ED, "14\u65E5"), (0x33EE, "15\u65E5"), (0x33EF, "16\u65E5"), (0x33F0, "17\u65E5"),
  (0x33F1, "18\u65E5"), (0x33F2, "19\u65E5"), (0x33F3, "20\u65E5"), (0x33F4, "21\u65E5"),
  (0x33F5, "22\u65E5"), (0x33F6, "23\u65E5"), (0x33F7, "24\u65E5"), (0x33F8, "25\u65E5"),
  (0x33F9, "26\u65E5"), (0x33FA, "27\u65E5"), (0x33FB, "28\u65E5"), (0x33FC, "29\u65E5"),
  (0x33FD, "30\u65E5"), (0x33FE, "31\u65E5"), (0x33FF, "gal"), (0xFB00, "ff"), (0xFB01, "fi"),
  (0xFB02, "fl"), (0xFB03, "ffi"), (0xFB04, "ffl"), (0xFB05, "st"), (0xFB06, "st"),
  (0xFC5E, " \u064C\u0651"), (0xFC5F, " \u064D\u0651"), (0xFC60, " \u064E\u0651"),
  (0xFC61, " \u064F\u0651"), (0xFC62, " \u0650\u0651"), (0xFC63, " \u0651\u0670"),
  (0xFDFA, "\u0635\u0644\u0649 \u0627\u0644\u0644\u0647 \u0639\u0644\u064A\u0647 \u0648\u0633\u0644\u0645"),
  (0xFDFB, "\u062C\u0644 \u062C\u0644\u0627\u0644\u0647"), (0xFE49, " \u0305"),
  (0xFE4A, " \u0305"), (0xFE4B, " \u0305"), (0xFE4C, " \u0305"), (0xFE70, " \u064B"),
  (0xFE72, " \u064C"), (0xFE74, " \u064D"), (0xFE76, " \u064E"), (0xFE78, " \u064F"),
  (0xFE7A, " \u0650"), (0xFE7C, " \u0651"), (0xFE7E, " \u0652"), (0xFFE3, " \u0304"),
  (0x1F101, "0,"), (0x1F102, "1,"), (0x1F103, "2,"), (0x1F104, "3,"), (0x1F105, "4,"),
  (0x1F106, "5,"), (0x1F107, "6,"), (0x1F108, "7,"), (0x1F109, "8,"), (0x1F10A, "9,"),
  (0x1F110, "(a)"), (0x1F111, "(b)"), (0x1F112, "(c)"), (0x1F113, "(d)"), (0x1F114, "(e)"),
  (0x1F115, "(f)"), (0x1F116, "(g)"), (0x1F117, "(h)"), (0x1F118, "(i)"), (0x1F119, "(j)"),
  (0x1F11A, "(k)"), (0x1F11B, "(l)"), (0x1F11C, "(m)"), (0x1F11D, "(n)"), (0x1F11E, "(o)"),
  (0x1F11F, "(p)"), (0x1F120, "(q)"), (0x1F121, "(r)"), (0x1F122, "(s)"), (0x1F123, "(t)"),
  (0x1F124, "(u)"), (0x1F125, "(v)"), (0x1F126, "(w)"), (0x1F127, "(x)"), (0x1F128, "(y)"),
  (0x1F129, "(z)"), (0x1F12A, "\u3014s\u3015"), (0x1F12D, "cd"), (0x1F12E, "wz"), (0x1F14A, "hv"),
  (0x1F14B, "mv"), (0x1F14C, "sd"), (0x1F14D, "ss"), (0x1F14E, "ppv"), (0x1F14F, "wc"),
  (0x1F16A, "mc"), (0x1F16B, "md"), (0x1F16C, "mr"), (0x1F190, "dj")]

def barredRuns : CharRuns := [
  (0x2024, 0x2026), (0x2488, 0x249B), (0x2FF0, 0x2FFF), (0x31EF, 0x31EF), (0x33C2, 0x33C2),
  (0x33C7, 0x33C7), (0x33D8, 0x33D8), (0xFE12, 0xFE12), (0xFE19, 0xFE19), (0xFE30, 0xFE30),
  (0xFE52, 0xFE52), (0xFFFC, 0xFFFD), (0x1F100, 0x1F100)]

/-- Characters that stand for others beyond the first 128. -/
def standInRuns : CharRuns := [
  (0xB5, 0xB5), (0xC0, 0xD6), (0xD8, 0xDE), (0x134, 0x134), (0x136, 0x136), (0x178, 0x179),
  (0x17B, 0x17B), (0x17D, 0x17D), (0x181, 0x182), (0x184, 0x184), (0x186, 0x187), (0x189, 0x18B),
  (0x18E, 0x191), (0x193, 0x194), (0x196, 0x198), (0x19C, 0x19D), (0x19F, 0x1A0), (0x1A2, 0x1A2),
  (0x1A4, 0x1A4), (0x1A6, 0x1A7), (0x1A9, 0x1A9), (0x1AC, 0x1AC), (0x1AE, 0x1AF), (0x1B1, 0x1B3),
  (0x1B5, 0x1B5), (0x1B7, 0x1B8), (0x1BC, 0x1BC), (0x1F4, 0x1F4), (0x1F6, 0x1F8), (0x23A, 0x23B),
  (0x23D, 0x23E), (0x241, 0x241), (0x243, 0x246), (0x2B1, 0x2B1), (0x2B4, 0x2B6), (0x2E0, 0x2E0),
  (0x2E4, 0x2E4), (0x340, 0x341), (0x343, 0x345), (0x37F, 0x37F), (0x386, 0x38A), (0x38C, 0x38C),
  (0x38E, 0x38F), (0x391, 0x3A1), (0x3A3, 0x3AB), (0x3CF, 0x3D6), (0x3F0, 0x3F2), (0x3F4, 0x3F5),
  (0x3F7, 0x3F7), (0x3F9, 0x3FA), (0x3FD, 0x42F), (0x4C0, 0x4C1), (0x531, 0x556), (0x587, 0x587),
  (0x675, 0x678), (0x958, 0x95F), (0x9DC, 0x9DD), (0x9DF, 0x9DF), (0xA33, 0xA33), (0xA36, 0xA36),
  (0xA59, 0xA5B), (0xA5E, 0xA5E), (0xB5C, 0xB5D), (0xE33, 0xE33), (0xEB3, 0xEB3), (0xEDC, 0xEDD),
  (0xF0C, 0xF0C), (0xF43, 0xF43), (0xF4D, 0xF4D), (0xF52, 0xF52), (0xF57, 0xF57), (0xF5C, 0xF5C),
  (0xF69, 0xF69), (0xF73, 0xF73), (0xF75, 0xF79), (0xF81, 0xF81), (0xF93, 0xF93), (0xF9D, 0xF9D),
  (0xFA2, 0xFA2), (0xFA7, 0xFA7), (0xFAC, 0xFAC), (0xFB9, 0xFB9), (0x10A0, 0x10C5),
  (0x10C7, 0x10C7), (0x10CD, 0x10CD), (0x10FC, 0x10FC), (0x13F8, 0x13FD), (0x1C80, 0x1C89),
  (0x1C90, 0x1CBA), (0x1CBD, 0x1CBF), (0x1D2D, 0x1D2D), (0x1D32, 0x1D32), (0x1D3D, 0x1D3D),
  (0x1D44, 0x1D46), (0x1D4A, 0x1D4C), (0x1D51, 0x1D51), (0x1D53, 0x1D55), (0x1D59, 0x1D5A),
  (0x1D5C, 0x1D61), (0x1D66, 0x1D6A), (0x1D78, 0x1D78), (0x1D9B, 0x1D9B), (0x1D9D, 0x1D9F),
  (0x1DA1, 0x1DBA), (0x1DBC, 0x1DBF), (0x1E9B, 0x1E9B), (0x1F08, 0x1F0F), (0x1F18, 0x1F1D),
  (0x1F28, 0x1F2F), (0x1F38, 0x1F3F), (0x1F48, 0x1F4D), (0x1F68, 0x1F6F), (0x1F80, 0x1FAF),
  (0x1FB2, 0x1FB4), (0x1FB7, 0x1FBC), (0x1FBE, 0x1FBE), (0x1FC2, 0x1FC4), (0x1FC7, 0x1FCC),
  (0x1FD3, 0x1FD3), (0x1FD8, 0x1FDB), (0x1FE3, 0x1FE3), (0x1FE8, 0x1FEC), (0x1FF2, 0x1FF4),
  (0x1FF7, 0x1FFC), (0x2011, 0x2011), (0x2033, 0x2034), (0x2036, 0x2037), (0x2057, 0x2057),
  (0x207B, 0x207B), (0x208B, 0x208B), (0x2094, 0x2094), (0x2107, 0x2107), (0x210F, 0x210F),
  (0x2126, 0x2126), (0x212B, 0x212B), (0x2132, 0x2132), (0x2135, 0x2138), (0x213C, 0x2140),
  (0x2183, 0x2183), (0x222C, 0x222D), (0x222F, 0x2230), (0x2329, 0x232A), (0x2A0C, 0x2A0C),
  (0x2ADC, 0x2ADC), (0x2C00, 0x2C2F), (0x2C60, 0x2C60), (0x2C62, 0x2C64), (0x2C6D, 0x2C70),
  (0x2C72, 0x2C72), (0x2C75, 0x2C75), (0x2C7E, 0x2C80), (0x2CEB, 0x2CEB), (0x2CED, 0x2CED),
  (0x2CF2, 0x2CF2), (0x2D6F, 0x2D6F), (0x2E9F, 0x2E9F), (0x2EF3, 0x2EF3), (0x2F00, 0x2FD5),
  (0x3036, 0x3036), (0x3038, 0x303A), (0x309F, 0x309F), (0x30FF, 0x30FF), (0x3131, 0x3163),
  (0x3165, 0x318E), (0x3192, 0x319F), (0x3244, 0x3247), (0x3260, 0x327E), (0x3280, 0x32B0),
  (0x32D0, 0x3357), (0x337B, 0x337F), (0xA69C, 0xA69D), (0xA779, 0xA779), (0xA77B, 0xA77B),
  (0xA77D, 0xA77E), (0xA78B, 0xA78B), (0xA78D, 0xA78D), (0xA790, 0xA790), (0xA792, 0xA792),
  (0xA7AA, 0xA7AE), (0xA7B0, 0xA7B4), (0xA7C4, 0xA7C7), (0xA7C9, 0xA7C9), (0xA7CB, 0xA7CC),
  (0xA7F5, 0xA7F5), (0xA7F8, 0xA7F9), (0xAB5C, 0xAB5F), (0xAB69, 0xAB69), (0xAB70, 0xABBF),
  (0xF900, 0xFA0D), (0xFA10, 0xFA10), (0xFA12, 0xFA12), (0xFA15, 0xFA1E), (0xFA20, 0xFA20),
  (0xFA22, 0xFA22), (0xFA25, 0xFA26), (0xFA2A, 0xFA6D), (0xFA70, 0xFAD9), (0xFB13, 0xFB17),
  (0xFB1D, 0xFB1D), (0xFB1F, 0xFB28), (0xFB2A, 0xFB36), (0xFB38, 0xFB3C), (0xFB3E, 0xFB3E),
  (0xFB40, 0xFB41), (0xFB43, 0xFB44), (0xFB46, 0xFBB1), (0xFBD3, 0xFC5D), (0xFC64, 0xFD3D),
  (0xFD50, 0xFD8F), (0xFD92, 0xFDC7), (0xFDF0, 0xFDF9), (0xFDFC, 0xFDFC), (0xFE11, 0xFE11),
  (0xFE17, 0xFE18), (0xFE31, 0xFE32), (0xFE39, 0xFE44), (0xFE51, 0xFE51), (0xFE58, 0xFE58),
  (0xFE5D, 0xFE5E), (0xFE71, 0xFE71), (0xFE7F, 0xFEFC), (0xFF5F, 0xFF60), (0xFF62, 0xFF9F),
  (0xFFA1, 0xFFBE), (0xFFC2, 0xFFC7), (0xFFCA, 0xFFCF), (0xFFD2, 0xFFD7), (0xFFDA, 0xFFDC),
  (0xFFE0, 0xFFE2), (0xFFE4, 0xFFE6), (0xFFE8, 0xFFEE), (0x10400, 0x10427), (0x104B0, 0x104D3),
  (0x10570, 0x1057A), (0x1057C, 0x1058A), (0x1058C, 0x10592), (0x10594, 0x10595),
  (0x10781, 0x10785), (0x10787, 0x107A4), (0x107A6, 0x107B0), (0x107B2, 0x107BA),
  (0x10C80, 0x10CB2), (0x10D50, 0x10D65), (0x118A0, 0x118BF), (0x16E40, 0x16E5F),
  (0x16EA0, 0x16EB8), (0x1D15E, 0x1D164), (0x1D1BB, 0x1D1C0), (0x1D6A4, 0x1D6A5),
  (0x1D6A8, 0x1D7CB), (0x1E030, 0x1E06D), (0x1E900, 0x1E921), (0x1EE00, 0x1EE03),
  (0x1EE05, 0x1EE1F), (0x1EE21, 0x1EE22), (0x1EE24, 0x1EE24), (0x1EE27, 0x1EE27),
  (0x1EE29, 0x1EE32), (0x1EE34, 0x1EE37), (0x1EE39, 0x1EE39), (0x1EE3B, 0x1EE3B),
  (0x1EE42, 0x1EE42), (0x1EE4D, 0x1EE4F), (0x1EE51, 0x1EE52), (0x1EE54, 0x1EE54),
  (0x1EE61, 0x1EE62), (0x1EE64, 0x1EE64), (0x1EE67, 0x1EE6A), (0x1EE6C, 0x1EE72),
  (0x1EE74, 0x1EE77), (0x1EE79, 0x1EE7C), (0x1EE7E, 0x1EE7E), (0x1EE80, 0x1EE89),
  (0x1EE8B, 0x1EE9B), (0x1EEA1, 0x1EEA3), (0x1EEA5, 0x1EEA9), (0x1EEAB, 0x1EEBB),
  (0x1F200, 0x1F202), (0x1F210, 0x1F23B), (0x1F240, 0x1F248), (0x1F250, 0x1F251),
  (0x2F800, 0x2FA1D)]

/-- Runs of which every second character, from the first on, stands for another. -/
def alternatingRuns : CharRuns := [
  (0x100, 0x12E), (0x139, 0x13D), (0x141, 0x147), (0x14A, 0x176), (0x1CD, 0x1DB), (0x1DE, 0x1EE),
  (0x1FA, 0x232), (0x248, 0x24E), (0x370, 0x376), (0x3D8, 0x3EE), (0x460, 0x480), (0x48A, 0x4BE),
  (0x4C3, 0x4CD), (0x4D0, 0x52E), (0x1E00, 0x1E94), (0x1E9E, 0x1EFE), (0x1F59, 0x1F5F),
  (0x1F71, 0x1F7D), (0x2C67, 0x2C6B), (0x2C82, 0x2CE2), (0xA640, 0xA66C), (0xA680, 0xA69A),
  (0xA722, 0xA72E), (0xA732, 0xA770), (0xA780, 0xA786), (0xA796, 0xA7A8), (0xA7B6, 0xA7C2),
  (0xA7CE, 0xA7DC), (0xFE77, 0xFE7D), (0x1EE47, 0x1EE4B), (0x1EE57, 0x1EE5F)]

def plainText? (c : Char) : Option (List Char) :=
  match plainRuns.find? fun (first, last, _) => first ≤ c.toNat && c.toNat ≤ last with
  | some (first, _, plain) => some [Char.ofNat (plain + (c.toNat - first))]
  | none => (plainTexts.find? fun (code, _) => code = c.toNat).map fun (_, text) => text.toList

def isStandIn (c : Char) : Bool :=
  standInRuns.holds c ||
    alternatingRuns.any fun (first, last) =>
      first ≤ c.toNat && c.toNat ≤ last && (c.toNat - first) % 2 = 0

/-- A character beyond the first 128 that no name may hold. Of those without a picture names may hold
the two that are seen in how letters join. -/
def isBarred (c : Char) : Bool :=
  barredRuns.holds c || (unprintableRuns.holds c && c ≠ '\u200C' && c ≠ '\u200D')

/-- Whether what a character is read as starts with a mark. One mark stands for a letter, and some letters
stand for marks. -/
def startsAsMark (c : Char) : Bool :=
  (isMark c && c ≠ '\u0345') || ['\u0E33', '\u0EB3', '\uFF9E', '\uFF9F'].contains c

/-- The characters that a character of a name is read as; none is one that no name may hold. -/
def spellChar? (c : Char) : Option (List Char) :=
  if c.toNat < 0x80 then some [c.toLower]
  else if silentRuns.holds c then some []
  else
    match plainText? c with
    | some cs => some cs
    | none => if isBarred c then none else some [c]

def isSpelledOut (c : Char) : Bool :=
  !silentRuns.holds c && (plainText? c).isNone && !isBarred c && !isStandIn c

end DonationPage
