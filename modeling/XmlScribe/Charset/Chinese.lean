/-
**Chinese character sets.**

The national standard of China numbers its characters in rows of 190, with areas of their own for
the ideographs, and in its later form writes all other characters of Unicode with four bytes.  Big5
has rows of 157.

Main definitions:

* `Repertoire.gbk`, `Repertoire.gb18030` — the characters with two and with four bytes;
* `MultiByte.gbk`, `MultiByte.gb18030` — the character sets of the national standard;
* `Repertoire.big5`, `MultiByte.big5` — Big5 with the additions of Hong Kong.
-/

import XmlScribe.Charset.Hanzi

set_option autoImplicit false

namespace XmlScribe

namespace Repertoire

/-- The characters with two bytes in the national standard that are outside the areas of the
ideographs. -/
def gbk : Repertoire :=
  [(0xE4C6, 0xE525, 6080), (0x3000, 0x3002, 6176), (0xB7, 0xB7, 6179), (0x2C9, 0x2C9, 6180),
    (0x2C7, 0x2C7, 6181), (0xA8, 0xA8, 6182), (0x3003, 0x3003, 6183), (0x3005, 0x3005, 6184),
    (0x2014, 0x2014, 6185), (0xFF5E, 0xFF5E, 6186), (0x2016, 0x2016, 6187),
    (0x2026, 0x2026, 6188), (0x2018, 0x2019, 6189), (0x201C, 0x201D, 6191),
    (0x3014, 0x3015, 6193), (0x3008, 0x300F, 6195), (0x3016, 0x3017, 6203),
    (0x3010, 0x3011, 6205), (0xB1, 0xB1, 6207), (0xD7, 0xD7, 6208), (0xF7, 0xF7, 6209),
    (0x2236, 0x2236, 6210), (0x2227, 0x2228, 6211), (0x2211, 0x2211, 6213),
    (0x220F, 0x220F, 6214), (0x222A, 0x222A, 6215), (0x2229, 0x2229, 6216),
    (0x2208, 0x2208, 6217), (0x2237, 0x2237, 6218), (0x221A, 0x221A, 6219),
    (0x22A5, 0x22A5, 6220), (0x2225, 0x2225, 6221), (0x2220, 0x2220, 6222),
    (0x2312, 0x2312, 6223), (0x2299, 0x2299, 6224), (0x222B, 0x222B, 6225),
    (0x222E, 0x222E, 6226), (0x2261, 0x2261, 6227), (0x224C, 0x224C, 6228),
    (0x2248, 0x2248, 6229), (0x223D, 0x223D, 6230), (0x221D, 0x221D, 6231),
    (0x2260, 0x2260, 6232), (0x226E, 0x226F, 6233), (0x2264, 0x2265, 6235),
    (0x221E, 0x221E, 6237), (0x2235, 0x2235, 6238), (0x2234, 0x2234, 6239),
    (0x2642, 0x2642, 6240), (0x2640, 0x2640, 6241), (0xB0, 0xB0, 6242), (0x2032, 0x2033, 6243),
    (0x2103, 0x2103, 6245), (0xFF04, 0xFF04, 6246), (0xA4, 0xA4, 6247), (0xFFE0, 0xFFE1, 6248),
    (0x2030, 0x2030, 6250), (0xA7, 0xA7, 6251), (0x2116, 0x2116, 6252), (0x2606, 0x2606, 6253),
    (0x2605, 0x2605, 6254), (0x25CB, 0x25CB, 6255), (0x25CF, 0x25CF, 6256),
    (0x25CE, 0x25CE, 6257), (0x25C7, 0x25C7, 6258), (0x25C6, 0x25C6, 6259),
    (0x25A1, 0x25A1, 6260), (0x25A0, 0x25A0, 6261), (0x25B3, 0x25B3, 6262),
    (0x25B2, 0x25B2, 6263), (0x203B, 0x203B, 6264), (0x2192, 0x2192, 6265),
    (0x2190, 0x2191, 6266), (0x2193, 0x2193, 6268), (0x3013, 0x3013, 6269),
    (0xE526, 0xE585, 6270), (0x2170, 0x2179, 6366), (0xE766, 0xE76B, 6376),
    (0x2488, 0x249B, 6382), (0x2474, 0x2487, 6402), (0x2460, 0x2469, 6422),
    (0x20AC, 0x20AC, 6432), (0xE76D, 0xE76D, 6433), (0x3220, 0x3229, 6434),
    (0xE76E, 0xE76F, 6444), (0x2160, 0x216B, 6446), (0xE770, 0xE771, 6458),
    (0xE586, 0xE5E4, 6460), (0x3000, 0x3000, 6555), (0xFF01, 0xFF03, 6556),
    (0xFFE5, 0xFFE5, 6559), (0xFF05, 0xFF5D, 6560), (0xFFE3, 0xFFE3, 6649),
    (0xE5E6, 0xE645, 6650), (0x3041, 0x3093, 6746), (0xE772, 0xE77C, 6829),
    (0xE646, 0xE6A5, 6840), (0x30A1, 0x30F6, 6936), (0xE77D, 0xE784, 7022),
    (0xE6A6, 0xE705, 7030), (0x391, 0x3A1, 7126), (0x3A3, 0x3A9, 7143), (0xE785, 0xE78C, 7150),
    (0x3B1, 0x3C1, 7158), (0x3C3, 0x3C9, 7175), (0xFE10, 0xFE10, 7182), (0xFE12, 0xFE12, 7183),
    (0xFE11, 0xFE11, 7184), (0xFE13, 0xFE16, 7185), (0xFE35, 0xFE36, 7189),
    (0xFE39, 0xFE3A, 7191), (0xFE3F, 0xFE40, 7193), (0xFE3D, 0xFE3E, 7195),
    (0xFE41, 0xFE44, 7197), (0xFE17, 0xFE18, 7201), (0xFE3B, 0xFE3C, 7203),
    (0xFE37, 0xFE38, 7205), (0xFE31, 0xFE31, 7207), (0xFE19, 0xFE19, 7208),
    (0xFE33, 0xFE34, 7209), (0xE797, 0xE79F, 7211), (0xE706, 0xE765, 7220), (0x410, 0x415, 7316),
    (0x401, 0x401, 7322), (0x416, 0x42F, 7323), (0xE7A0, 0xE7AE, 7349), (0x430, 0x435, 7364),
    (0x451, 0x451, 7370), (0x436, 0x44F, 7371), (0xE7AF, 0xE7BB, 7397), (0x2CA, 0x2CB, 7410),
    (0x2D9, 0x2D9, 7412), (0x2013, 0x2013, 7413), (0x2015, 0x2015, 7414), (0x2025, 0x2025, 7415),
    (0x2035, 0x2035, 7416), (0x2105, 0x2105, 7417), (0x2109, 0x2109, 7418),
    (0x2196, 0x2199, 7419), (0x2215, 0x2215, 7423), (0x221F, 0x221F, 7424),
    (0x2223, 0x2223, 7425), (0x2252, 0x2252, 7426), (0x2266, 0x2267, 7427),
    (0x22BF, 0x22BF, 7429), (0x2550, 0x2573, 7430), (0x2581, 0x258F, 7466),
    (0x2593, 0x2595, 7481), (0x25BC, 0x25BD, 7484), (0x25E2, 0x25E5, 7486),
    (0x2609, 0x2609, 7490), (0x2295, 0x2295, 7491), (0x3012, 0x3012, 7492),
    (0x301D, 0x301E, 7493), (0xE7BC, 0xE7C6, 7495), (0x101, 0x101, 7506), (0xE1, 0xE1, 7507),
    (0x1CE, 0x1CE, 7508), (0xE0, 0xE0, 7509), (0x113, 0x113, 7510), (0xE9, 0xE9, 7511),
    (0x11B, 0x11B, 7512), (0xE8, 0xE8, 7513), (0x12B, 0x12B, 7514), (0xED, 0xED, 7515),
    (0x1D0, 0x1D0, 7516), (0xEC, 0xEC, 7517), (0x14D, 0x14D, 7518), (0xF3, 0xF3, 7519),
    (0x1D2, 0x1D2, 7520), (0xF2, 0xF2, 7521), (0x16B, 0x16B, 7522), (0xFA, 0xFA, 7523),
    (0x1D4, 0x1D4, 7524), (0xF9, 0xF9, 7525), (0x1D6, 0x1D6, 7526), (0x1D8, 0x1D8, 7527),
    (0x1DA, 0x1DA, 7528), (0x1DC, 0x1DC, 7529), (0xFC, 0xFC, 7530), (0xEA, 0xEA, 7531),
    (0x251, 0x251, 7532), (0x1E3F, 0x1E3F, 7533), (0x144, 0x144, 7534), (0x148, 0x148, 7535),
    (0x1F9, 0x1F9, 7536), (0x261, 0x261, 7537), (0xE7C9, 0xE7CC, 7538), (0x3105, 0x3129, 7542),
    (0xE7CD, 0xE7E1, 7579), (0x3021, 0x3029, 7600), (0x32A3, 0x32A3, 7609),
    (0x338E, 0x338F, 7610), (0x339C, 0x339E, 7612), (0x33A1, 0x33A1, 7615),
    (0x33C4, 0x33C4, 7616), (0x33CE, 0x33CE, 7617), (0x33D1, 0x33D2, 7618),
    (0x33D5, 0x33D5, 7620), (0xFE30, 0xFE30, 7621), (0xFFE2, 0xFFE2, 7622),
    (0xFFE4, 0xFFE4, 7623), (0xE7E2, 0xE7E2, 7624), (0x2121, 0x2121, 7625),
    (0x3231, 0x3231, 7626), (0xE7E3, 0xE7E3, 7627), (0x2010, 0x2010, 7628),
    (0xE7E4, 0xE7E6, 7629), (0x30FC, 0x30FC, 7632), (0x309B, 0x309C, 7633),
    (0x30FD, 0x30FE, 7635), (0x3006, 0x3006, 7637), (0x309D, 0x309E, 7638),
    (0xFE49, 0xFE52, 7640), (0xFE54, 0xFE57, 7650), (0xFE59, 0xFE66, 7654),
    (0xFE68, 0xFE6B, 7668), (0x303E, 0x303E, 7672), (0x2FF0, 0x2FFB, 7673),
    (0x3007, 0x3007, 7685), (0xE7F4, 0xE800, 7686), (0x2500, 0x254B, 7699),
    (0xE801, 0xE80F, 7775), (0xE000, 0xE05D, 7886), (0xE05E, 0xE0BB, 8076),
    (0xE0BC, 0xE119, 8266), (0xE11A, 0xE177, 8456), (0xE178, 0xE1D5, 8646),
    (0xE1D6, 0xE233, 8836), (0xE810, 0xE814, 16525), (0xE234, 0xE291, 22706),
    (0xE292, 0xE2EF, 22896), (0xE2F0, 0xE34D, 23086), (0xE34E, 0xE3AB, 23276),
    (0xE3AC, 0xE409, 23466), (0xF92C, 0xF92C, 23651), (0xF979, 0xF979, 23652),
    (0xF995, 0xF995, 23653), (0xF9E7, 0xF9E7, 23654), (0xF9F1, 0xF9F1, 23655),
    (0xE40A, 0xE467, 23656), (0xFA0C, 0xFA0F, 23750), (0xFA11, 0xFA11, 23754),
    (0xFA13, 0xFA14, 23755), (0xFA18, 0xFA18, 23757), (0xFA1F, 0xFA21, 23758),
    (0xFA23, 0xFA24, 23761), (0xFA27, 0xFA29, 23763), (0x2E81, 0x2E81, 23766),
    (0xE816, 0xE818, 23767), (0x2E84, 0x2E84, 23770), (0x3473, 0x3473, 23771),
    (0x3447, 0x3447, 23772), (0x2E88, 0x2E88, 23773), (0x2E8B, 0x2E8B, 23774),
    (0x9FB4, 0x9FB4, 23775), (0x359E, 0x359E, 23776), (0x361A, 0x361A, 23777),
    (0x360E, 0x360E, 23778), (0x2E8C, 0x2E8C, 23779), (0x2E97, 0x2E97, 23780),
    (0x396E, 0x396E, 23781), (0x3918, 0x3918, 23782), (0x9FB5, 0x9FB5, 23783),
    (0x39CF, 0x39CF, 23784), (0x39DF, 0x39DF, 23785), (0x3A73, 0x3A73, 23786),
    (0x39D0, 0x39D0, 23787), (0x9FB6, 0x9FB7, 23788), (0x3B4E, 0x3B4E, 23790),
    (0x3C6E, 0x3C6E, 23791), (0x3CE0, 0x3CE0, 23792), (0x2EA7, 0x2EA7, 23793),
    (0xE831, 0xE831, 23794), (0x9FB8, 0x9FB8, 23795), (0x2EAA, 0x2EAA, 23796),
    (0x4056, 0x4056, 23797), (0x415F, 0x415F, 23798), (0x2EAE, 0x2EAE, 23799),
    (0x4337, 0x4337, 23800), (0x2EB3, 0x2EB3, 23801), (0x2EB6, 0x2EB7, 23802),
    (0xE83B, 0xE83B, 23804), (0x43B1, 0x43B1, 23805), (0x43AC, 0x43AC, 23806),
    (0x2EBB, 0x2EBB, 23807), (0x43DD, 0x43DD, 23808), (0x44D6, 0x44D6, 23809),
    (0x4661, 0x4661, 23810), (0x464C, 0x464C, 23811), (0x9FB9, 0x9FB9, 23812),
    (0x4723, 0x4723, 23813), (0x4729, 0x4729, 23814), (0x477C, 0x477C, 23815),
    (0x478D, 0x478D, 23816), (0x2ECA, 0x2ECA, 23817), (0x4947, 0x4947, 23818),
    (0x497A, 0x497A, 23819), (0x497D, 0x497D, 23820), (0x4982, 0x4983, 23821),
    (0x4985, 0x4986, 23823), (0x499F, 0x499F, 23825), (0x499B, 0x499B, 23826),
    (0x49B7, 0x49B7, 23827), (0x49B6, 0x49B6, 23828), (0x9FBA, 0x9FBA, 23829),
    (0xE855, 0xE855, 23830), (0x4CA3, 0x4CA3, 23831), (0x4C9F, 0x4CA1, 23832),
    (0x4C77, 0x4C77, 23835), (0x4CA2, 0x4CA2, 23836), (0x4D13, 0x4D19, 23837),
    (0x4DAE, 0x4DAE, 23844), (0x9FBB, 0x9FBB, 23845), (0xE468, 0xE4C5, 23846)]

/-- Private use characters that the standard has replaced, at the positions of their
replacements. -/
def gbkReplaced : Repertoire :=
  [(0xE78D, 0xE793, 7182), (0xE794, 0xE795, 7201), (0xE796, 0xE796, 7208),
    (0xE81E, 0xE81E, 23775), (0xE826, 0xE826, 23783), (0xE82B, 0xE82C, 23788),
    (0xE832, 0xE832, 23795), (0xE843, 0xE843, 23812), (0xE854, 0xE854, 23829),
    (0xE864, 0xE864, 23845)]

/-- The characters with four bytes in the national standard. -/
def gb18030 : Repertoire :=
  [(0x80, 0xA3, 0), (0xA5, 0xA6, 36), (0xA9, 0xAF, 38), (0xB2, 0xB6, 45), (0xB8, 0xD6, 50),
    (0xD8, 0xDF, 81), (0xE2, 0xE7, 89), (0xEB, 0xEB, 95), (0xEE, 0xF1, 96), (0xF4, 0xF6, 100),
    (0xF8, 0xF8, 103), (0xFB, 0xFB, 104), (0xFD, 0x100, 105), (0x102, 0x112, 109),
    (0x114, 0x11A, 126), (0x11C, 0x12A, 133), (0x12C, 0x143, 148), (0x145, 0x147, 172),
    (0x149, 0x14C, 175), (0x14E, 0x16A, 179), (0x16C, 0x1CD, 208), (0x1CF, 0x1CF, 306),
    (0x1D1, 0x1D1, 307), (0x1D3, 0x1D3, 308), (0x1D5, 0x1D5, 309), (0x1D7, 0x1D7, 310),
    (0x1D9, 0x1D9, 311), (0x1DB, 0x1DB, 312), (0x1DD, 0x1F8, 313), (0x1FA, 0x250, 341),
    (0x252, 0x260, 428), (0x262, 0x2C6, 443), (0x2C8, 0x2C8, 544), (0x2CC, 0x2D8, 545),
    (0x2DA, 0x390, 558), (0x3A2, 0x3A2, 741), (0x3AA, 0x3B0, 742), (0x3C2, 0x3C2, 749),
    (0x3CA, 0x400, 750), (0x402, 0x40F, 805), (0x450, 0x450, 819), (0x452, 0x1E3E, 820),
    (0xE7C7, 0xE7C7, 7457), (0x1E40, 0x200F, 7458), (0x2011, 0x2012, 7922),
    (0x2017, 0x2017, 7924), (0x201A, 0x201B, 7925), (0x201E, 0x2024, 7927),
    (0x2027, 0x202F, 7934), (0x2031, 0x2031, 7943), (0x2034, 0x2034, 7944),
    (0x2036, 0x203A, 7945), (0x203C, 0x20AB, 7950), (0x20AD, 0x2102, 8062),
    (0x2104, 0x2104, 8148), (0x2106, 0x2108, 8149), (0x210A, 0x2115, 8152),
    (0x2117, 0x2120, 8164), (0x2122, 0x215F, 8174), (0x216C, 0x216F, 8236),
    (0x217A, 0x218F, 8240), (0x2194, 0x2195, 8262), (0x219A, 0x2207, 8264),
    (0x2209, 0x220E, 8374), (0x2210, 0x2210, 8380), (0x2212, 0x2214, 8381),
    (0x2216, 0x2219, 8384), (0x221B, 0x221C, 8388), (0x2221, 0x2222, 8390),
    (0x2224, 0x2224, 8392), (0x2226, 0x2226, 8393), (0x222C, 0x222D, 8394),
    (0x222F, 0x2233, 8396), (0x2238, 0x223C, 8401), (0x223E, 0x2247, 8406),
    (0x2249, 0x224B, 8416), (0x224D, 0x2251, 8419), (0x2253, 0x225F, 8424),
    (0x2262, 0x2263, 8437), (0x2268, 0x226D, 8439), (0x2270, 0x2294, 8445),
    (0x2296, 0x2298, 8482), (0x229A, 0x22A4, 8485), (0x22A6, 0x22BE, 8496),
    (0x22C0, 0x2311, 8521), (0x2313, 0x245F, 8603), (0x246A, 0x2473, 8936),
    (0x249C, 0x24FF, 8946), (0x254C, 0x254F, 9046), (0x2574, 0x2580, 9050),
    (0x2590, 0x2592, 9063), (0x2596, 0x259F, 9066), (0x25A2, 0x25B1, 9076),
    (0x25B4, 0x25BB, 9092), (0x25BE, 0x25C5, 9100), (0x25C8, 0x25CA, 9108),
    (0x25CC, 0x25CD, 9111), (0x25D0, 0x25E1, 9113), (0x25E6, 0x2604, 9131),
    (0x2607, 0x2608, 9162), (0x260A, 0x263F, 9164), (0x2641, 0x2641, 9218),
    (0x2643, 0x2E80, 9219), (0x2E82, 0x2E83, 11329), (0x2E85, 0x2E87, 11331),
    (0x2E89, 0x2E8A, 11334), (0x2E8D, 0x2E96, 11336), (0x2E98, 0x2EA6, 11346),
    (0x2EA8, 0x2EA9, 11361), (0x2EAB, 0x2EAD, 11363), (0x2EAF, 0x2EB2, 11366),
    (0x2EB4, 0x2EB5, 11370), (0x2EB8, 0x2EBA, 11372), (0x2EBC, 0x2EC9, 11375),
    (0x2ECB, 0x2FEF, 11389), (0x2FFC, 0x2FFF, 11682), (0x3004, 0x3004, 11686),
    (0x3018, 0x301C, 11687), (0x301F, 0x3020, 11692), (0x302A, 0x303D, 11694),
    (0x303F, 0x3040, 11714), (0x3094, 0x309A, 11716), (0x309F, 0x30A0, 11723),
    (0x30F7, 0x30FB, 11725), (0x30FF, 0x3104, 11730), (0x312A, 0x321F, 11736),
    (0x322A, 0x3230, 11982), (0x3232, 0x32A2, 11989), (0x32A4, 0x338D, 12102),
    (0x3390, 0x339B, 12336), (0x339F, 0x33A0, 12348), (0x33A2, 0x33C3, 12350),
    (0x33C5, 0x33CD, 12384), (0x33CF, 0x33D0, 12393), (0x33D3, 0x33D4, 12395),
    (0x33D6, 0x3446, 12397), (0x3448, 0x3472, 12510), (0x3474, 0x359D, 12553),
    (0x359F, 0x360D, 12851), (0x360F, 0x3619, 12962), (0x361B, 0x3917, 12973),
    (0x3919, 0x396D, 13738), (0x396F, 0x39CE, 13823), (0x39D1, 0x39DE, 13919),
    (0x39E0, 0x3A72, 13933), (0x3A74, 0x3B4D, 14080), (0x3B4F, 0x3C6D, 14298),
    (0x3C6F, 0x3CDF, 14585), (0x3CE1, 0x4055, 14698), (0x4057, 0x415E, 15583),
    (0x4160, 0x4336, 15847), (0x4338, 0x43AB, 16318), (0x43AD, 0x43B0, 16434),
    (0x43B2, 0x43DC, 16438), (0x43DE, 0x44D5, 16481), (0x44D7, 0x464B, 16729),
    (0x464D, 0x4660, 17102), (0x4662, 0x4722, 17122), (0x4724, 0x4728, 17315),
    (0x472A, 0x477B, 17320), (0x477D, 0x478C, 17402), (0x478E, 0x4946, 17418),
    (0x4948, 0x4979, 17859), (0x497B, 0x497C, 17909), (0x497E, 0x4981, 17911),
    (0x4984, 0x4984, 17915), (0x4987, 0x499A, 17916), (0x499C, 0x499E, 17936),
    (0x49A0, 0x49B5, 17939), (0x49B8, 0x4C76, 17961), (0x4C78, 0x4C9E, 18664),
    (0x4CA4, 0x4D12, 18703), (0x4D1A, 0x4DAD, 18814), (0x4DAF, 0x4DFF, 18962),
    (0x9FA6, 0xD7FF, 19043), (0xE76C, 0xE76C, 33469), (0xE7C8, 0xE7C8, 33470),
    (0xE7E7, 0xE7F3, 33471), (0xE815, 0xE815, 33484), (0xE819, 0xE81D, 33485),
    (0xE81F, 0xE825, 33490), (0xE827, 0xE82A, 33497), (0xE82D, 0xE830, 33501),
    (0xE833, 0xE83A, 33505), (0xE83C, 0xE842, 33513), (0xE844, 0xE853, 33520),
    (0xE856, 0xE863, 33536), (0xE865, 0xF92B, 33550), (0xF92D, 0xF978, 37845),
    (0xF97A, 0xF994, 37921), (0xF996, 0xF9E6, 37948), (0xF9E8, 0xF9F0, 38029),
    (0xF9F2, 0xFA0B, 38038), (0xFA10, 0xFA10, 38064), (0xFA12, 0xFA12, 38065),
    (0xFA15, 0xFA17, 38066), (0xFA19, 0xFA1E, 38069), (0xFA22, 0xFA22, 38075),
    (0xFA25, 0xFA26, 38076), (0xFA2A, 0xFE2F, 38078), (0xFE32, 0xFE32, 39108),
    (0xFE45, 0xFE48, 39109), (0xFE53, 0xFE53, 39113), (0xFE58, 0xFE58, 39114),
    (0xFE67, 0xFE67, 39115), (0xFE6C, 0xFF00, 39116), (0xFF5F, 0xFFDF, 39265),
    (0xFFE6, 0xFFFF, 39394), (0x10000, 0x10FFFF, 189000)]

/-- The signs and letters of Big5. -/
def big5Letters : Repertoire :=
  [(0x31C0, 0x31C4, 1099), (0x31C5, 0x31C5, 1105), (0x31C6, 0x31C7, 1108),
    (0x31C8, 0x31C8, 1112), (0x31C9, 0x31CC, 1114), (0x31CD, 0x31CE, 1119), (0x100, 0x100, 1121),
    (0xC1, 0xC1, 1122), (0x1CD, 0x1CD, 1123), (0xC0, 0xC0, 1124), (0x112, 0x112, 1125),
    (0xC9, 0xC9, 1126), (0x11A, 0x11A, 1127), (0xC8, 0xC8, 1128), (0x14C, 0x14C, 1129),
    (0xD3, 0xD3, 1130), (0x1D1, 0x1D1, 1131), (0xD2, 0xD2, 1132), (0x1EBE, 0x1EBE, 1134),
    (0x1EC0, 0x1EC0, 1136), (0xCA, 0xCA, 1137), (0x101, 0x101, 1138), (0xE1, 0xE1, 1139),
    (0x1CE, 0x1CE, 1140), (0xE0, 0xE0, 1141), (0x251, 0x251, 1142), (0x113, 0x113, 1143),
    (0xE9, 0xE9, 1144), (0x11B, 0x11B, 1145), (0xE8, 0xE8, 1146), (0x12B, 0x12B, 1147),
    (0xED, 0xED, 1148), (0x1D0, 0x1D0, 1149), (0xEC, 0xEC, 1150), (0x14D, 0x14D, 1151),
    (0xF3, 0xF3, 1152), (0x1D2, 0x1D2, 1153), (0xF2, 0xF2, 1154), (0x16B, 0x16B, 1155),
    (0xFA, 0xFA, 1156), (0x1D4, 0x1D4, 1157), (0xF9, 0xF9, 1158), (0x1D6, 0x1D6, 1159),
    (0x1D8, 0x1D8, 1160), (0x1DA, 0x1DA, 1161), (0x1DC, 0x1DC, 1162), (0xFC, 0xFC, 1163),
    (0x1EBF, 0x1EBF, 1165), (0x1EC1, 0x1EC1, 1167), (0xEA, 0xEA, 1168), (0x261, 0x261, 1169),
    (0x23DA, 0x23DB, 1170), (0x3000, 0x3000, 5024), (0xFF0C, 0xFF0C, 5025),
    (0x3001, 0x3002, 5026), (0xFF0E, 0xFF0E, 5028), (0x2027, 0x2027, 5029),
    (0xFF1B, 0xFF1B, 5030), (0xFF1A, 0xFF1A, 5031), (0xFF1F, 0xFF1F, 5032),
    (0xFF01, 0xFF01, 5033), (0xFE30, 0xFE30, 5034), (0x2026, 0x2026, 5035),
    (0x2025, 0x2025, 5036), (0xFE50, 0xFE52, 5037), (0xB7, 0xB7, 5040), (0xFE54, 0xFE57, 5041),
    (0xFF5C, 0xFF5C, 5045), (0x2013, 0x2013, 5046), (0xFE31, 0xFE31, 5047),
    (0x2014, 0x2014, 5048), (0xFE33, 0xFE33, 5049), (0x2574, 0x2574, 5050),
    (0xFE34, 0xFE34, 5051), (0xFE4F, 0xFE4F, 5052), (0xFF08, 0xFF09, 5053),
    (0xFE35, 0xFE36, 5055), (0xFF5B, 0xFF5B, 5057), (0xFF5D, 0xFF5D, 5058),
    (0xFE37, 0xFE38, 5059), (0x3014, 0x3015, 5061), (0xFE39, 0xFE3A, 5063),
    (0x3010, 0x3011, 5065), (0xFE3B, 0xFE3C, 5067), (0x300A, 0x300B, 5069),
    (0xFE3D, 0xFE3E, 5071), (0x3008, 0x3009, 5073), (0xFE3F, 0xFE40, 5075),
    (0x300C, 0x300D, 5077), (0xFE41, 0xFE42, 5079), (0x300E, 0x300F, 5081),
    (0xFE43, 0xFE44, 5083), (0xFE59, 0xFE5E, 5085), (0x2018, 0x2019, 5091),
    (0x201C, 0x201D, 5093), (0x301D, 0x301E, 5095), (0x2035, 0x2035, 5097),
    (0x2032, 0x2032, 5098), (0xFF03, 0xFF03, 5099), (0xFF06, 0xFF06, 5100),
    (0xFF0A, 0xFF0A, 5101), (0x203B, 0x203B, 5102), (0xA7, 0xA7, 5103), (0x3003, 0x3003, 5104),
    (0x25CB, 0x25CB, 5105), (0x25CF, 0x25CF, 5106), (0x25B3, 0x25B3, 5107),
    (0x25B2, 0x25B2, 5108), (0x25CE, 0x25CE, 5109), (0x2606, 0x2606, 5110),
    (0x2605, 0x2605, 5111), (0x25C7, 0x25C7, 5112), (0x25C6, 0x25C6, 5113),
    (0x25A1, 0x25A1, 5114), (0x25A0, 0x25A0, 5115), (0x25BD, 0x25BD, 5116),
    (0x25BC, 0x25BC, 5117), (0x32A3, 0x32A3, 5118), (0x2105, 0x2105, 5119), (0xAF, 0xAF, 5120),
    (0xFFE3, 0xFFE3, 5121), (0xFF3F, 0xFF3F, 5122), (0x2CD, 0x2CD, 5123), (0xFE49, 0xFE4A, 5124),
    (0xFE4D, 0xFE4E, 5126), (0xFE4B, 0xFE4C, 5128), (0xFE5F, 0xFE61, 5130),
    (0xFF0B, 0xFF0B, 5133), (0xFF0D, 0xFF0D, 5134), (0xD7, 0xD7, 5135), (0xF7, 0xF7, 5136),
    (0xB1, 0xB1, 5137), (0x221A, 0x221A, 5138), (0xFF1C, 0xFF1C, 5139), (0xFF1E, 0xFF1E, 5140),
    (0xFF1D, 0xFF1D, 5141), (0x2266, 0x2267, 5142), (0x2260, 0x2260, 5144),
    (0x221E, 0x221E, 5145), (0x2252, 0x2252, 5146), (0x2261, 0x2261, 5147),
    (0xFE62, 0xFE66, 5148), (0xFF5E, 0xFF5E, 5153), (0x2229, 0x222A, 5154),
    (0x22A5, 0x22A5, 5156), (0x2220, 0x2220, 5157), (0x221F, 0x221F, 5158),
    (0x22BF, 0x22BF, 5159), (0x33D2, 0x33D2, 5160), (0x33D1, 0x33D1, 5161),
    (0x222B, 0x222B, 5162), (0x222E, 0x222E, 5163), (0x2235, 0x2235, 5164),
    (0x2234, 0x2234, 5165), (0x2640, 0x2640, 5166), (0x2642, 0x2642, 5167),
    (0x2295, 0x2295, 5168), (0x2299, 0x2299, 5169), (0x2191, 0x2191, 5170),
    (0x2193, 0x2193, 5171), (0x2190, 0x2190, 5172), (0x2192, 0x2192, 5173),
    (0x2196, 0x2197, 5174), (0x2199, 0x2199, 5176), (0x2198, 0x2198, 5177),
    (0x2225, 0x2225, 5178), (0x2223, 0x2223, 5179), (0xFF0F, 0xFF0F, 5180),
    (0xFF3C, 0xFF3C, 5181), (0x2215, 0x2215, 5182), (0xFE68, 0xFE68, 5183),
    (0xFF04, 0xFF04, 5184), (0xFFE5, 0xFFE5, 5185), (0x3012, 0x3012, 5186),
    (0xFFE0, 0xFFE1, 5187), (0xFF05, 0xFF05, 5189), (0xFF20, 0xFF20, 5190),
    (0x2103, 0x2103, 5191), (0x2109, 0x2109, 5192), (0xFE69, 0xFE6B, 5193),
    (0x33D5, 0x33D5, 5196), (0x339C, 0x339E, 5197), (0x33CE, 0x33CE, 5200),
    (0x33A1, 0x33A1, 5201), (0x338E, 0x338F, 5202), (0x33C4, 0x33C4, 5204), (0xB0, 0xB0, 5205),
    (0x2581, 0x2588, 5215), (0x258F, 0x258F, 5223), (0x258E, 0x258E, 5224),
    (0x258D, 0x258D, 5225), (0x258C, 0x258C, 5226), (0x258B, 0x258B, 5227),
    (0x258A, 0x258A, 5228), (0x2589, 0x2589, 5229), (0x253C, 0x253C, 5230),
    (0x2534, 0x2534, 5231), (0x252C, 0x252C, 5232), (0x2524, 0x2524, 5233),
    (0x251C, 0x251C, 5234), (0x2594, 0x2594, 5235), (0x2500, 0x2500, 5236),
    (0x2502, 0x2502, 5237), (0x2595, 0x2595, 5238), (0x250C, 0x250C, 5239),
    (0x2510, 0x2510, 5240), (0x2514, 0x2514, 5241), (0x2518, 0x2518, 5242),
    (0x256D, 0x256E, 5243), (0x2570, 0x2570, 5245), (0x256F, 0x256F, 5246),
    (0x2550, 0x2550, 5247), (0x255E, 0x255E, 5248), (0x256A, 0x256A, 5249),
    (0x2561, 0x2561, 5250), (0x25E2, 0x25E3, 5251), (0x25E5, 0x25E5, 5253),
    (0x25E4, 0x25E4, 5254), (0x2571, 0x2573, 5255), (0xFF10, 0xFF19, 5258),
    (0x2160, 0x2169, 5268), (0x3021, 0x3029, 5278), (0xFF21, 0xFF3A, 5290),
    (0xFF41, 0xFF5A, 5316), (0x391, 0x3A1, 5342), (0x3A3, 0x3A9, 5359), (0x3B1, 0x3C1, 5366),
    (0x3C3, 0x3C9, 5383), (0x3105, 0x3129, 5390), (0x2D9, 0x2D9, 5427), (0x2C9, 0x2CA, 5428),
    (0x2C7, 0x2C7, 5430), (0x2CB, 0x2CB, 5431), (0x2400, 0x241F, 5432), (0x2421, 0x2421, 5464),
    (0x20AC, 0x20AC, 5465), (0x2460, 0x2469, 10896), (0x2474, 0x247D, 10906),
    (0x2170, 0x2179, 10916), (0x2F33, 0x2F33, 10940), (0xA8, 0xA8, 10951), (0x2C6, 0x2C6, 10952),
    (0x30FD, 0x30FE, 10953), (0x309D, 0x309E, 10955), (0x3003, 0x3003, 10957),
    (0x3005, 0x3007, 10959), (0x30FC, 0x30FC, 10962), (0xFF3B, 0xFF3B, 10963),
    (0xFF3D, 0xFF3D, 10964), (0x273D, 0x273D, 10965), (0x3041, 0x3093, 10966),
    (0x30A1, 0x30F6, 11049), (0x410, 0x415, 11135), (0x401, 0x401, 11141), (0x416, 0x435, 11142),
    (0x451, 0x451, 11174), (0x436, 0x44F, 11175), (0x21E7, 0x21E7, 11201),
    (0x21B8, 0x21B9, 11202), (0x31CF, 0x31CF, 11204), (0xFFE2, 0xFFE2, 11254),
    (0xFFE4, 0xFFE4, 11255), (0xFF07, 0xFF07, 11256), (0xFF02, 0xFF02, 11257),
    (0x3231, 0x3231, 11258), (0x2116, 0x2116, 11259), (0x2121, 0x2121, 11260),
    (0x309B, 0x309C, 11261), (0x2E80, 0x2E80, 11263), (0x2E84, 0x2E84, 11264),
    (0x2E86, 0x2E88, 11265), (0x2E8A, 0x2E8A, 11268), (0x2E8C, 0x2E8D, 11269),
    (0x2E95, 0x2E95, 11271), (0x2E9C, 0x2E9D, 11272), (0x2EA5, 0x2EA5, 11274),
    (0x2EA7, 0x2EA7, 11275), (0x2EAA, 0x2EAA, 11276), (0x2EAC, 0x2EAC, 11277),
    (0x2EAE, 0x2EAE, 11278), (0x2EB6, 0x2EB6, 11279), (0x2EBC, 0x2EBC, 11280),
    (0x2EBE, 0x2EBE, 11281), (0x2EC6, 0x2EC6, 11282), (0x2ECA, 0x2ECA, 11283),
    (0x2ECC, 0x2ECD, 11284), (0x2ECF, 0x2ECF, 11286), (0x2ED6, 0x2ED7, 11287),
    (0x2EDE, 0x2EDE, 11289), (0x2EE3, 0x2EE3, 11290), (0x283, 0x283, 11294),
    (0x250, 0x250, 11295), (0x25B, 0x25B, 11296), (0x254, 0x254, 11297), (0x275, 0x275, 11298),
    (0x153, 0x153, 11299), (0xF8, 0xF8, 11300), (0x14B, 0x14B, 11301), (0x28A, 0x28A, 11302),
    (0x26A, 0x26A, 11303), (0x2554, 0x2554, 18963), (0x2566, 0x2566, 18964),
    (0x2557, 0x2557, 18965), (0x2560, 0x2560, 18966), (0x256C, 0x256C, 18967),
    (0x2563, 0x2563, 18968), (0x255A, 0x255A, 18969), (0x2569, 0x2569, 18970),
    (0x255D, 0x255D, 18971), (0x2552, 0x2552, 18972), (0x2564, 0x2564, 18973),
    (0x2555, 0x2555, 18974), (0x255E, 0x255E, 18975), (0x256A, 0x256A, 18976),
    (0x2561, 0x2561, 18977), (0x2558, 0x2558, 18978), (0x2567, 0x2567, 18979),
    (0x255B, 0x255B, 18980), (0x2553, 0x2553, 18981), (0x2565, 0x2565, 18982),
    (0x2556, 0x2556, 18983), (0x255F, 0x255F, 18984), (0x256B, 0x256B, 18985),
    (0x2562, 0x2562, 18986), (0x2559, 0x2559, 18987), (0x2568, 0x2568, 18988),
    (0x255C, 0x255C, 18989), (0x2551, 0x2551, 18990), (0x2550, 0x2550, 18991),
    (0x256D, 0x256E, 18992), (0x2570, 0x2570, 18994), (0x256F, 0x256F, 18995),
    (0xFFED, 0xFFED, 18996)]

/-- Characters that Big5 has twice and that are written at the second position. -/
def big5Second : Repertoire :=
  [(0x2550, 0x2550, 18991), (0x255E, 0x255E, 18975), (0x2561, 0x2561, 18977),
    (0x256A, 0x256A, 18976), (0x5341, 0x5341, 5512), (0x5345, 0x5345, 5599)]

/-- The characters of Big5. -/
def big5 : Repertoire :=
  big5Letters ++ traditionalHanzi

end Repertoire

namespace MultiByte

/-- The ideographs of GB 2312. -/
def commonForm : Form :=
  ⟨[[[(0xB0, 0xF7)], [(0xA1, 0xFE)]]], .commonHanzi⟩

/-- The other ideographs, in two areas. -/
def otherForm : Form :=
  ⟨[[[(0x81, 0xA0)], [(0x40, 0x7E), (0x80, 0xFE)]], [[(0xAA, 0xFE)], [(0x40, 0x7E), (0x80, 0xA0)]]],
    .otherHanzi⟩

/-- All else with two bytes. -/
def letterForm (repertoire : Repertoire) : Form :=
  ⟨[[[(0x81, 0xFE)], [(0x40, 0x7E), (0x80, 0xFE)]]], repertoire⟩

/-- The characters with four bytes. -/
def fourByteForm : Form :=
  ⟨[[[(0x81, 0xFE)], [(0x30, 0x39)], [(0x81, 0xFE)], [(0x30, 0x39)]]], .gb18030⟩

/-- The euro sign as a single byte. -/
def singleByteEuro : Form := ⟨[[[(0x80, 0x80)]]], [(0x20AC, 0x20AC, 0)]⟩

/-- All forms of the national standard. -/
def nationalForms : List Form :=
  [singleByteEuro, letterForm .gbk, commonForm, otherForm, fourByteForm]

/-- The forms with two bytes, as they are written. -/
def twoByteForms : List Form :=
  [letterForm (Repertoire.gbk ++ Repertoire.gbkReplaced), commonForm, otherForm]

/-- GBK, which is read like gb18030 but written without four-byte characters. -/
def gbk : MultiByte where
  reads := nationalForms
  writes := singleByteEuro :: twoByteForms
  pairs := []

/-- gb18030, in which the euro sign is written with two bytes. -/
def gb18030 : MultiByte where
  reads := nationalForms
  writes := twoByteForms ++ [fourByteForm]
  pairs := []

/-- Big5.  Four positions stand for a letter with two marks.  The additions before row 32 can be
read but not written. -/
def big5 : MultiByte :=
  let grid : Layout := [[(0x81, 0xFE)], [(0x40, 0x7E), (0xA1, 0xFE)]]
  let pair (first second : Nat) : Text := [Char.ofNat first, Char.ofNat second]
  { reads := [⟨[grid], .big5⟩]
    writes :=
      [⟨[grid], Repertoire.big5Second ++ Repertoire.big5.without 0 (32 * 157 - 1)⟩]
    pairs :=
      [((0x88, 0x62), pair 0xCA 0x304), ((0x88, 0x64), pair 0xCA 0x30C),
       ((0x88, 0xA3), pair 0xEA 0x304), ((0x88, 0xA5), pair 0xEA 0x30C)] }

end MultiByte

end XmlScribe
