import FlagBoard.Text.Unprintable

/-!
What the characters of a host's name stand for: most for themselves, capitals for small letters,
variants of a character for the character, some for nothing. The others may not occur in a name.
-/

namespace FlagBoard.Http.NameMapping

/-- Characters that stand for one other character: the first and last of a run, the step from one to
the next, and what is added to each. -/
def runs : List (Nat × Nat × Nat × Int) :=
  [(0x41, 0x5a, 1, 32), (0xc0, 0xd6, 1, 32), (0xd8, 0xde, 1, 32), (0x100, 0x12e, 2, 1),
   (0x139, 0x13d, 2, 1), (0x141, 0x147, 2, 1), (0x14a, 0x176, 2, 1), (0x179, 0x17d, 2, 1),
   (0x1a0, 0x1a4, 2, 1), (0x1cd, 0x1db, 2, 1), (0x1de, 0x1ee, 2, 1), (0x1f8, 0x21e, 2, 1),
   (0x222, 0x232, 2, 1), (0x246, 0x24e, 2, 1), (0x388, 0x38a, 1, 37), (0x391, 0x3a1, 1, 32),
   (0x3a3, 0x3ab, 1, 32), (0x3d8, 0x3ee, 2, 1), (0x3fd, 0x3ff, 1, -130), (0x400, 0x40f, 1, 80),
   (0x410, 0x42f, 1, 32), (0x460, 0x480, 2, 1), (0x48a, 0x4be, 2, 1), (0x4c1, 0x4cd, 2, 1),
   (0x4d0, 0x52e, 2, 1), (0x531, 0x556, 1, 48), (0x10a0, 0x10c5, 1, 7264), (0x13f8, 0x13fd, 1, -8),
   (0x1c90, 0x1cba, 1, -3008), (0x1cbd, 0x1cbf, 1, -3008), (0x1d31, 0x1d39, 2, -7372),
   (0x1d34, 0x1d3a, 2, -7372), (0x1d5d, 0x1d5f, 1, -6571), (0x1da4, 0x1da6, 1, -6972),
   (0x1dae, 0x1db1, 1, -6972), (0x1dbc, 0x1dbe, 1, -6956), (0x1e00, 0x1e94, 2, 1),
   (0x1ea0, 0x1efe, 2, 1), (0x1f08, 0x1f0f, 1, -8), (0x1f18, 0x1f1d, 1, -8),
   (0x1f28, 0x1f2f, 1, -8), (0x1f38, 0x1f3f, 1, -8), (0x1f48, 0x1f4d, 1, -8),
   (0x1f59, 0x1f5f, 2, -8), (0x1f68, 0x1f6f, 1, -8), (0x2074, 0x2079, 1, -8256),
   (0x2080, 0x2089, 1, -8272), (0x2096, 0x2099, 1, -8235), (0x2119, 0x211b, 1, -8361),
   (0x2135, 0x2138, 1, -7013), (0x2460, 0x2468, 1, -9263), (0x24b6, 0x24cf, 1, -9301),
   (0x24d0, 0x24e9, 1, -9327), (0x2c00, 0x2c2f, 1, 48), (0x2c67, 0x2c6b, 2, 1),
   (0x2c80, 0x2ce2, 2, 1), (0x3137, 0x3139, 1, -8244), (0x313a, 0x313f, 1, -8074),
   (0x3141, 0x3143, 1, -8251), (0x3145, 0x314e, 1, -8252), (0x314f, 0x3163, 1, -8174),
   (0x3178, 0x317c, 1, -8269), (0x3184, 0x3186, 1, -8237), (0x3263, 0x3265, 1, -8542),
   (0x3269, 0x326d, 1, -8539), (0x32e4, 0x32e9, 1, -538), (0x32ee, 0x32f2, 1, -528),
   (0x32f5, 0x32fa, 1, -525), (0x32fb, 0x32fe, 1, -524), (0xa640, 0xa66c, 2, 1),
   (0xa680, 0xa69a, 2, 1), (0xa722, 0xa72e, 2, 1), (0xa732, 0xa76e, 2, 1), (0xa77e, 0xa786, 2, 1),
   (0xa796, 0xa7a8, 2, 1), (0xa7b4, 0xa7c2, 2, 1), (0xa7cc, 0xa7da, 2, 1),
   (0xab70, 0xabbf, 1, -38864), (0xfb24, 0xfb26, 1, -62793), (0xfe41, 0xfe44, 1, -52789),
   (0xff01, 0xff20, 1, -65248), (0xff21, 0xff3a, 1, -65216), (0xff3b, 0xff5e, 1, -65248),
   (0xff85, 0xff8a, 1, -52923), (0xff8f, 0xff93, 1, -52913), (0xff96, 0xff9b, 1, -52910),
   (0xffa7, 0xffa9, 1, -61092), (0xffaa, 0xffaf, 1, -60922), (0xffb1, 0xffb3, 1, -61099),
   (0xffb5, 0xffbe, 1, -61100), (0xffc2, 0xffc7, 1, -61025), (0xffca, 0xffcf, 1, -61027),
   (0xffd2, 0xffd7, 1, -61029), (0xffda, 0xffdc, 1, -61031), (0xffe9, 0xffec, 1, -56921),
   (0x10400, 0x10427, 1, 40), (0x104b0, 0x104d3, 1, 40), (0x10570, 0x10594, 2, 39),
   (0x10571, 0x10579, 2, 39), (0x1057d, 0x10589, 2, 39), (0x1058d, 0x10591, 2, 39),
   (0x107b6, 0x107b8, 1, -67062), (0x10c80, 0x10cb2, 1, 64), (0x10d50, 0x10d65, 1, 32),
   (0x118a0, 0x118bf, 1, 32), (0x16e40, 0x16e5f, 1, 32), (0x16ea0, 0x16eb8, 1, 27),
   (0x1ccd6, 0x1ccef, 1, -117877), (0x1ccf0, 0x1ccf9, 1, -117952), (0x1d400, 0x1d419, 1, -119711),
   (0x1d41a, 0x1d433, 1, -119737), (0x1d434, 0x1d44d, 1, -119763), (0x1d44e, 0x1d466, 2, -119789),
   (0x1d44f, 0x1d453, 2, -119789), (0x1d457, 0x1d467, 2, -119789), (0x1d468, 0x1d481, 1, -119815),
   (0x1d482, 0x1d49b, 1, -119841), (0x1d4a9, 0x1d4ac, 1, -119867), (0x1d4ae, 0x1d4b5, 1, -119867),
   (0x1d4b6, 0x1d4b9, 1, -119893), (0x1d4bb, 0x1d4cf, 2, -119893), (0x1d4be, 0x1d4c2, 2, -119893),
   (0x1d4c6, 0x1d4ce, 2, -119893), (0x1d4d0, 0x1d4e9, 1, -119919), (0x1d4ea, 0x1d503, 1, -119945),
   (0x1d505, 0x1d509, 2, -119971), (0x1d50d, 0x1d514, 1, -119971), (0x1d516, 0x1d51c, 1, -119971),
   (0x1d51e, 0x1d537, 1, -119997), (0x1d539, 0x1d53d, 2, -120023), (0x1d53c, 0x1d546, 2, -120023),
   (0x1d54a, 0x1d550, 1, -120023), (0x1d552, 0x1d56b, 1, -120049), (0x1d56c, 0x1d585, 1, -120075),
   (0x1d586, 0x1d59f, 1, -120101), (0x1d5a0, 0x1d5b9, 1, -120127), (0x1d5ba, 0x1d5d3, 1, -120153),
   (0x1d5d4, 0x1d5ed, 1, -120179), (0x1d5ee, 0x1d607, 1, -120205), (0x1d608, 0x1d621, 1, -120231),
   (0x1d622, 0x1d63b, 1, -120257), (0x1d63c, 0x1d655, 1, -120283), (0x1d656, 0x1d66f, 1, -120309),
   (0x1d670, 0x1d689, 1, -120335), (0x1d68a, 0x1d6a3, 1, -120361), (0x1d6a8, 0x1d6b8, 1, -119543),
   (0x1d6ba, 0x1d6c0, 1, -119543), (0x1d6c2, 0x1d6d2, 1, -119569), (0x1d6d4, 0x1d6da, 1, -119569),
   (0x1d6e2, 0x1d6f2, 1, -119601), (0x1d6f4, 0x1d6fa, 1, -119601), (0x1d6fc, 0x1d70c, 1, -119627),
   (0x1d70e, 0x1d714, 1, -119627), (0x1d71c, 0x1d72c, 1, -119659), (0x1d72e, 0x1d734, 1, -119659),
   (0x1d736, 0x1d746, 1, -119685), (0x1d748, 0x1d74e, 1, -119685), (0x1d756, 0x1d766, 1, -119717),
   (0x1d768, 0x1d76e, 1, -119717), (0x1d770, 0x1d780, 1, -119743), (0x1d782, 0x1d788, 1, -119743),
   (0x1d790, 0x1d7a0, 1, -119775), (0x1d7a2, 0x1d7a8, 1, -119775), (0x1d7aa, 0x1d7ba, 1, -119801),
   (0x1d7bc, 0x1d7c2, 1, -119801), (0x1d7ce, 0x1d7d7, 1, -120734), (0x1d7d8, 0x1d7e1, 1, -120744),
   (0x1d7e2, 0x1d7eb, 1, -120754), (0x1d7ec, 0x1d7f5, 1, -120764), (0x1d7f6, 0x1d7ff, 1, -120774),
   (0x1e030, 0x1e038, 1, -121856), (0x1e039, 0x1e03b, 1, -121855), (0x1e03c, 0x1e046, 1, -121854),
   (0x1e051, 0x1e059, 1, -121889), (0x1e05f, 0x1e064, 1, -121884), (0x1e900, 0x1e921, 1, 34),
   (0x1ee0a, 0x1ee0d, 1, -124871), (0x1ee2a, 0x1ee2d, 1, -124903), (0x1ee8b, 0x1ee8d, 1, -124999),
   (0x1eeab, 0x1eead, 1, -125031), (0x1f130, 0x1f149, 1, -127183), (0x1fbf0, 0x1fbf9, 1, -129984)]

def letters : List (Nat × Nat × String) :=
  [(0xaa, 0xaa, "a"), (0xb2, 0xb3, "23"), (0xb5, 0xb5, "μ"), (0xb9, 0xba, "1o"),
   (0x134, 0x134, "ĵ"), (0x136, 0x136, "ķ"), (0x178, 0x178, "ÿ"), (0x17f, 0x17f, "s"),
   (0x181, 0x182, "ɓƃ"), (0x184, 0x184, "ƅ"), (0x186, 0x187, "ɔƈ"), (0x189, 0x18b, "ɖɗƌ"),
   (0x18e, 0x191, "ǝəɛƒ"), (0x193, 0x194, "ɠɣ"), (0x196, 0x198, "ɩɨƙ"), (0x19c, 0x19d, "ɯɲ"),
   (0x19f, 0x19f, "ɵ"), (0x1a6, 0x1a7, "ʀƨ"), (0x1a9, 0x1a9, "ʃ"), (0x1ac, 0x1ac, "ƭ"),
   (0x1ae, 0x1af, "ʈư"), (0x1b1, 0x1b3, "ʊʋƴ"), (0x1b5, 0x1b5, "ƶ"), (0x1b7, 0x1b8, "ʒƹ"),
   (0x1bc, 0x1bc, "ƽ"), (0x1f4, 0x1f4, "ǵ"), (0x1f6, 0x1f7, "ƕƿ"), (0x220, 0x220, "ƞ"),
   (0x23a, 0x23b, "ⱥȼ"), (0x23d, 0x23e, "ƚⱦ"), (0x241, 0x241, "ɂ"), (0x243, 0x245, "ƀʉʌ"),
   (0x2b0, 0x2b8, "hɦjrɹɻʁwy"), (0x2e0, 0x2e4, "ɣlsxʕ"), (0x340, 0x341, "\u0300\u0301"),
   (0x343, 0x343, "\u0313"), (0x345, 0x345, "ι"), (0x370, 0x370, "ͱ"), (0x372, 0x372, "ͳ"),
   (0x374, 0x374, "ʹ"), (0x376, 0x376, "ͷ"), (0x37e, 0x37f, ";ϳ"), (0x386, 0x387, "ά·"),
   (0x38c, 0x38c, "ό"), (0x38e, 0x38f, "ύώ"), (0x3cf, 0x3d6, "ϗβθυύϋφπ"), (0x3f0, 0x3f2, "κρσ"),
   (0x3f4, 0x3f5, "θε"), (0x3f7, 0x3f7, "ϸ"), (0x3f9, 0x3fa, "σϻ"), (0x4c0, 0x4c0, "ӏ"),
   (0xf0c, 0xf0c, "་"), (0x10c7, 0x10c7, "ⴧ"), (0x10cd, 0x10cd, "ⴭ"), (0x10fc, 0x10fc, "ნ"),
   (0x1c80, 0x1c89, "вдосттъѣꙋᲊ"), (0x1d2c, 0x1d2e, "aæb"), (0x1d30, 0x1d30, "d"),
   (0x1d32, 0x1d32, "ǝ"), (0x1d3c, 0x1d4d, "oȣprtuwaɐɑᴂbdeəɛɜg"),
   (0x1d4f, 0x1d5c, "kmŋoɔᴖᴗptuᴝɯvᴥ"), (0x1d60, 0x1d6a, "φχiruvβγρφχ"), (0x1d78, 0x1d78, "н"),
   (0x1d9b, 0x1da3, "ɒcɕðɜfɟɡɥ"), (0x1da7, 0x1dad, "ᵻʝɭᶅʟɱɰ"), (0x1db2, 0x1dbb, "ɸʂʃƫʉʊᴜʋʌz"),
   (0x1dbf, 0x1dbf, "θ"), (0x1e9b, 0x1e9b, "ṡ"), (0x1e9e, 0x1e9e, "ß"), (0x1f71, 0x1f71, "ά"),
   (0x1f73, 0x1f73, "έ"), (0x1f75, 0x1f75, "ή"), (0x1f77, 0x1f77, "ί"), (0x1f79, 0x1f79, "ό"),
   (0x1f7b, 0x1f7b, "ύ"), (0x1f7d, 0x1f7d, "ώ"), (0x1fb8, 0x1fbb, "ᾰᾱὰά"), (0x1fbe, 0x1fbe, "ι"),
   (0x1fc8, 0x1fcb, "ὲέὴή"), (0x1fd3, 0x1fd3, "ΐ"), (0x1fd8, 0x1fdb, "ῐῑὶί"), (0x1fe3, 0x1fe3, "ΰ"),
   (0x1fe8, 0x1fec, "ῠῡὺύῥ"), (0x1fef, 0x1fef, "\x60"), (0x1ff8, 0x1ffb, "ὸόὼώ"),
   (0x2011, 0x2011, "‐"), (0x2070, 0x2071, "0i"), (0x207a, 0x207f, "+−=()n"),
   (0x208a, 0x208e, "+−=()"), (0x2090, 0x2095, "aeoxəh"), (0x209a, 0x209c, "pst"),
   (0x2102, 0x2102, "c"), (0x2107, 0x2107, "ɛ"), (0x210a, 0x2113, "ghhhhħiill"),
   (0x2115, 0x2115, "n"), (0x211c, 0x211d, "rr"), (0x2124, 0x2124, "z"), (0x2126, 0x2126, "ω"),
   (0x2128, 0x2128, "z"), (0x212a, 0x212d, "kåbc"), (0x212f, 0x2134, "eefⅎmo"),
   (0x2139, 0x2139, "i"), (0x213c, 0x2140, "πγγπ∑"), (0x2145, 0x2149, "ddeij"),
   (0x2160, 0x2160, "i"), (0x2164, 0x2164, "v"), (0x2169, 0x2169, "x"), (0x216c, 0x2170, "lcdmi"),
   (0x2174, 0x2174, "v"), (0x2179, 0x2179, "x"), (0x217c, 0x217f, "lcdm"), (0x2183, 0x2183, "ↄ"),
   (0x2329, 0x232a, "〈〉"), (0x24ea, 0x24ea, "0"), (0x2c60, 0x2c60, "ⱡ"), (0x2c62, 0x2c64, "ɫᵽɽ"),
   (0x2c6d, 0x2c70, "ɑɱɐɒ"), (0x2c72, 0x2c72, "ⱳ"), (0x2c75, 0x2c75, "ⱶ"), (0x2c7c, 0x2c7f, "jvȿɀ"),
   (0x2ceb, 0x2ceb, "ⳬ"), (0x2ced, 0x2ced, "ⳮ"), (0x2cf2, 0x2cf2, "ⳳ"), (0x2d6f, 0x2d6f, "ⵡ"),
   (0x2e9f, 0x2e9f, "母"), (0x2ef3, 0x2ef3, "龟"),
   (0x2f00, 0x2f49, "一丨丶丿乙亅二亠人儿入八冂冖冫几凵刀力勹匕匚匸十卜卩厂厶又口囗土士夂夊夕大女子宀寸小尢尸屮山巛工己巾干幺广廴廾弋弓彐彡彳心戈戶手支攴文斗斤方无日曰月"),
   (0x2f4a, 0x2f93, "木欠止歹殳毋比毛氏气水火爪父爻爿片牙牛犬玄玉瓜瓦甘生用田疋疒癶白皮皿目矛矢石示禸禾穴立竹米糸缶网羊羽老而耒耳聿肉臣自至臼舌舛舟艮色艸虍虫血行衣襾見角"),
   (0x2f94, 0x2fd5, "言谷豆豕豸貝赤走足身車辛辰辵邑酉釆里金長門阜隶隹雨靑非面革韋韭音頁風飛食首香馬骨高髟鬥鬯鬲鬼魚鳥鹵鹿麥麻黃黍黑黹黽鼎鼓鼠鼻齊齒龍龜龠"),
   (0x3002, 0x3002, "."), (0x3036, 0x3036, "〒"), (0x3038, 0x303a, "十卄卅"),
   (0x3131, 0x3136, "ᄀᄁᆪᄂᆬᆭ"), (0x3140, 0x3140, "ᄚ"), (0x3144, 0x3144, "ᄡ"),
   (0x3165, 0x3177, "ᄔᄕᇇᇈᇌᇎᇓᇗᇙᄜᇝᇟᄝᄞᄠᄢᄣᄧᄩ"), (0x317d, 0x3183, "ᄲᄶᅀᅇᅌᇱᇲ"),
   (0x3187, 0x318e, "ᆄᆅᆈᆑᆒᆔᆞᆡ"), (0x3192, 0x319f, "一二三四上中下甲乙丙丁天地人"), (0x3244, 0x3247, "問幼文箏"),
   (0x3260, 0x3262, "ᄀᄂᄃ"), (0x3266, 0x3268, "ᄉᄋᄌ"), (0x326e, 0x327b, "가나다라마바사아자차카타파하"),
   (0x327e, 0x327e, "우"), (0x3280, 0x32b0, "一二三四五六七八九十月火水木金土日株有社名特財祝労秘男女適優印注項休写正上中下左右医宗学監企資協夜"),
   (0x32d0, 0x32e3, "アイウエオカキクケコサシスセソタチツテト"), (0x32ea, 0x32ed, "ヒフヘホ"), (0x32f3, 0x32f4, "ヤユ"),
   (0xa69c, 0xa69d, "ъь"), (0xa770, 0xa770, "ꝯ"), (0xa779, 0xa779, "ꝺ"), (0xa77b, 0xa77b, "ꝼ"),
   (0xa77d, 0xa77d, "ᵹ"), (0xa78b, 0xa78b, "ꞌ"), (0xa78d, 0xa78d, "ɥ"), (0xa790, 0xa790, "ꞑ"),
   (0xa792, 0xa792, "ꞓ"), (0xa7aa, 0xa7ae, "ɦɜɡɬɪ"), (0xa7b0, 0xa7b3, "ʞʇʝꭓ"),
   (0xa7c4, 0xa7c7, "ꞔʂᶎꟈ"), (0xa7c9, 0xa7c9, "ꟊ"), (0xa7cb, 0xa7cb, "ɤ"), (0xa7dc, 0xa7dc, "ƛ"),
   (0xa7f1, 0xa7f5, "scfqꟶ"), (0xa7f8, 0xa7f9, "ħœ"), (0xab5c, 0xab5f, "ꜧꬷɫꭒ"),
   (0xab69, 0xab69, "ʍ"),
   (0xf900, 0xf949, "豈更車賈滑串句龜龜契金喇奈懶癩羅蘿螺裸邏樂洛烙珞落酪駱亂卵欄爛蘭鸞嵐濫藍襤拉臘蠟廊朗浪狼郎來冷勞擄櫓爐盧老蘆虜路露魯鷺碌祿綠菉錄鹿論壟弄籠聾牢磊賂雷"),
   (0xf94a, 0xf993, "壘屢樓淚漏累縷陋勒肋凜凌稜綾菱陵讀拏樂諾丹寧怒率異北磻便復不泌數索參塞省葉說殺辰沈拾若掠略亮兩凉梁糧良諒量勵呂女廬旅濾礪閭驪麗黎力曆歷轢年憐戀撚漣煉"),
   (0xf994, 0xf9dd, "璉秊練聯輦蓮連鍊列劣咽烈裂說廉念捻殮簾獵令囹寧嶺怜玲瑩羚聆鈴零靈領例禮醴隸惡了僚寮尿料樂燎療蓼遼龍暈阮劉杻柳流溜琉留硫紐類六戮陸倫崙淪輪律慄栗率隆利"),
   (0xf9de, 0xfa0d, "吏履易李梨泥理痢罹裏裡里離匿溺吝燐璘藺隣鱗麟林淋臨立笠粒狀炙識什茶刺切度拓糖宅洞暴輻行降見廓兀嗀"), (0xfa10, 0xfa10, "塚"),
   (0xfa12, 0xfa12, "晴"), (0xfa15, 0xfa1e, "凞猪益礼神祥福靖精羽"), (0xfa20, 0xfa20, "蘒"),
   (0xfa22, 0xfa22, "諸"), (0xfa25, 0xfa26, "逸都"),
   (0xfa2a, 0xfa6d, "飯飼館鶴郞隷侮僧免勉勤卑喝嘆器塀墨層屮悔慨憎懲敏既暑梅海渚漢煮爫琢碑社祉祈祐祖祝禍禎穀突節練縉繁署者臭艹艹著褐視謁謹賓贈辶逸難響頻恵𤋮舘"),
   (0xfa70, 0xfab9, "並况全侀充冀勇勺喝啕喙嗢塚墳奄奔婢嬨廒廙彩徭惘慎愈憎慠懲戴揄搜摒敖晴朗望杖歹殺流滛滋漢瀞煮瞧爵犯猪瑱甆画瘝瘟益盛直睊着磌窱節类絛練缾者荒華蝹襁覆視調"),
   (0xfaba, 0xfad9, "諸請謁諾諭謹變贈輸遲醙鉶陼難靖韛響頋頻鬒龜𢡊𢡄𣏕㮝䀘䀹𥉉𥳐𧻓齃龎"),
   (0xfb20, 0xfb23, "\u05e2\u05d0\u05d3\u05d4"), (0xfb27, 0xfb29, "\u05e8\u05ea+"),
   (0xfb50, 0xfb5b, "\u0671\u0671\u067b\u067b\u067b\u067b\u067e\u067e\u067e\u067e\u0680\u0680"),
   (0xfb5c, 0xfb67, "\u0680\u0680\u067a\u067a\u067a\u067a\u067f\u067f\u067f\u067f\u0679\u0679"),
   (0xfb68, 0xfb73, "\u0679\u0679\u06a4\u06a4\u06a4\u06a4\u06a6\u06a6\u06a6\u06a6\u0684\u0684"),
   (0xfb74, 0xfb7f, "\u0684\u0684\u0683\u0683\u0683\u0683\u0686\u0686\u0686\u0686\u0687\u0687"),
   (0xfb80, 0xfb8b, "\u0687\u0687\u068d\u068d\u068c\u068c\u068e\u068e\u0688\u0688\u0698\u0698"),
   (0xfb8c, 0xfb97, "\u0691\u0691\u06a9\u06a9\u06a9\u06a9\u06af\u06af\u06af\u06af\u06b3\u06b3"),
   (0xfb98, 0xfba3, "\u06b3\u06b3\u06b1\u06b1\u06b1\u06b1\u06ba\u06ba\u06bb\u06bb\u06bb\u06bb"),
   (0xfba4, 0xfbaf, "\u06c0\u06c0\u06c1\u06c1\u06c1\u06c1\u06be\u06be\u06be\u06be\u06d2\u06d2"),
   (0xfbb0, 0xfbb1, "\u06d3\u06d3"),
   (0xfbd3, 0xfbdc, "\u06ad\u06ad\u06ad\u06ad\u06c7\u06c7\u06c6\u06c6\u06c8\u06c8"),
   (0xfbde, 0xfbe9, "\u06cb\u06cb\u06c5\u06c5\u06c9\u06c9\u06d0\u06d0\u06d0\u06d0\u0649\u0649"),
   (0xfbfc, 0xfbff, "\u06cc\u06cc\u06cc\u06cc"), (0xfe10, 0xfe11, ",、"), (0xfe13, 0xfe18, ":;!?〖〗"),
   (0xfe31, 0xfe40, "—–__()\x7b\x7d〔〕【】《》〈〉"), (0xfe47, 0xfe48, "[]"), (0xfe4d, 0xfe51, "___,、"),
   (0xfe54, 0xfe66, ";:?!—()\x7b\x7d〔〕#&*+-<>="), (0xfe68, 0xfe6b, "\\$%@"),
   (0xfe80, 0xfe8b, "\u0621\u0622\u0622\u0623\u0623\u0624\u0624\u0625\u0625\u0626\u0626\u0626"),
   (0xfe8c, 0xfe97, "\u0626\u0627\u0627\u0628\u0628\u0628\u0628\u0629\u0629\u062a\u062a\u062a"),
   (0xfe98, 0xfea3, "\u062a\u062b\u062b\u062b\u062b\u062c\u062c\u062c\u062c\u062d\u062d\u062d"),
   (0xfea4, 0xfeaf, "\u062d\u062e\u062e\u062e\u062e\u062f\u062f\u0630\u0630\u0631\u0631\u0632"),
   (0xfeb0, 0xfebb, "\u0632\u0633\u0633\u0633\u0633\u0634\u0634\u0634\u0634\u0635\u0635\u0635"),
   (0xfebc, 0xfec7, "\u0635\u0636\u0636\u0636\u0636\u0637\u0637\u0637\u0637\u0638\u0638\u0638"),
   (0xfec8, 0xfed3, "\u0638\u0639\u0639\u0639\u0639\u063a\u063a\u063a\u063a\u0641\u0641\u0641"),
   (0xfed4, 0xfedf, "\u0641\u0642\u0642\u0642\u0642\u0643\u0643\u0643\u0643\u0644\u0644\u0644"),
   (0xfee0, 0xfeeb, "\u0644\u0645\u0645\u0645\u0645\u0646\u0646\u0646\u0646\u0647\u0647\u0647"),
   (0xfeec, 0xfef4, "\u0647\u0648\u0648\u0649\u0649\u064a\u064a\u064a\u064a"),
   (0xff5f, 0xff84, "⦅⦆.「」、・ヲァィゥェォャュョッーアイウエオカキクケコサシスセソタチツテト"), (0xff8b, 0xff8e, "ヒフヘホ"),
   (0xff94, 0xff95, "ヤユ"), (0xff9c, 0xff9f, "ワン\u3099\u309a"), (0xffa1, 0xffa6, "ᄀᄁᆪᄂᆬᆭ"),
   (0xffb0, 0xffb0, "ᄚ"), (0xffb4, 0xffb4, "ᄡ"), (0xffe0, 0xffe2, "¢£¬"), (0xffe4, 0xffe6, "¦¥₩"),
   (0xffe8, 0xffe8, "│"), (0xffed, 0xffee, "■○"), (0x10595, 0x10595, "𐖼"),
   (0x10781, 0x10785, "ːˑæʙɓ"), (0x10787, 0x107b0, "ʣꭦʥʤɖɗᶑɘɞʩɤɢɠʛħʜɧʄʪʫɬ𝼄ꞎɮ𝼅ʎ𝼆øɶɷqɺ𝼈ɽɾʀʨʦꭧʧʈⱱ"),
   (0x107b2, 0x107b5, "ʏʡʢʘ"), (0x107b9, 0x107ba, "𝼊𝼞"), (0x1d49c, 0x1d49c, "a"),
   (0x1d49e, 0x1d49f, "cd"), (0x1d4a2, 0x1d4a2, "g"), (0x1d4a5, 0x1d4a6, "jk"),
   (0x1d504, 0x1d504, "a"), (0x1d508, 0x1d508, "e"), (0x1d50a, 0x1d50a, "g"),
   (0x1d538, 0x1d538, "a"), (0x1d541, 0x1d541, "j"), (0x1d543, 0x1d543, "l"),
   (0x1d6a4, 0x1d6a5, "ıȷ"), (0x1d6b9, 0x1d6b9, "θ"), (0x1d6c1, 0x1d6c1, "∇"),
   (0x1d6d3, 0x1d6d3, "σ"), (0x1d6db, 0x1d6e1, "∂εθκφρπ"), (0x1d6f3, 0x1d6f3, "θ"),
   (0x1d6fb, 0x1d6fb, "∇"), (0x1d70d, 0x1d70d, "σ"), (0x1d715, 0x1d71b, "∂εθκφρπ"),
   (0x1d72d, 0x1d72d, "θ"), (0x1d735, 0x1d735, "∇"), (0x1d747, 0x1d747, "σ"),
   (0x1d74f, 0x1d755, "∂εθκφρπ"), (0x1d767, 0x1d767, "θ"), (0x1d76f, 0x1d76f, "∇"),
   (0x1d781, 0x1d781, "σ"), (0x1d789, 0x1d78f, "∂εθκφρπ"), (0x1d7a1, 0x1d7a1, "θ"),
   (0x1d7a9, 0x1d7a9, "∇"), (0x1d7bb, 0x1d7bb, "σ"), (0x1d7c3, 0x1d7cb, "∂εθκφρπϝϝ"),
   (0x1e047, 0x1e050, "ыэюꚉәіјөүӏ"), (0x1e05a, 0x1e05e, "клопс"), (0x1e065, 0x1e06d, "ъыґіѕџҫꙑұ"),
   (0x1ee00, 0x1ee03, "\u0627\u0628\u062c\u062f"),
   (0x1ee05, 0x1ee09, "\u0648\u0632\u062d\u0637\u064a"),
   (0x1ee0e, 0x1ee19, "\u0633\u0639\u0641\u0635\u0642\u0631\u0634\u062a\u062b\u062e\u0630\u0636"),
   (0x1ee1a, 0x1ee1f, "\u0638\u063a\u066e\u06ba\u06a1\u066f"), (0x1ee21, 0x1ee22, "\u0628\u062c"),
   (0x1ee24, 0x1ee24, "\u0647"), (0x1ee27, 0x1ee27, "\u062d"), (0x1ee29, 0x1ee29, "\u064a"),
   (0x1ee2e, 0x1ee32, "\u0633\u0639\u0641\u0635\u0642"),
   (0x1ee34, 0x1ee37, "\u0634\u062a\u062b\u062e"), (0x1ee39, 0x1ee39, "\u0636"),
   (0x1ee3b, 0x1ee3b, "\u063a"), (0x1ee42, 0x1ee42, "\u062c"), (0x1ee47, 0x1ee47, "\u062d"),
   (0x1ee49, 0x1ee49, "\u064a"), (0x1ee4b, 0x1ee4b, "\u0644"),
   (0x1ee4d, 0x1ee4f, "\u0646\u0633\u0639"), (0x1ee51, 0x1ee52, "\u0635\u0642"),
   (0x1ee54, 0x1ee54, "\u0634"), (0x1ee57, 0x1ee57, "\u062e"), (0x1ee59, 0x1ee59, "\u0636"),
   (0x1ee5b, 0x1ee5b, "\u063a"), (0x1ee5d, 0x1ee5d, "\u06ba"), (0x1ee5f, 0x1ee5f, "\u066f"),
   (0x1ee61, 0x1ee62, "\u0628\u062c"), (0x1ee64, 0x1ee64, "\u0647"),
   (0x1ee67, 0x1ee6a, "\u062d\u0637\u064a\u0643"),
   (0x1ee6c, 0x1ee72, "\u0645\u0646\u0633\u0639\u0641\u0635\u0642"),
   (0x1ee74, 0x1ee77, "\u0634\u062a\u062b\u062e"), (0x1ee79, 0x1ee7c, "\u0636\u0638\u063a\u066e"),
   (0x1ee7e, 0x1ee7e, "\u06a1"),
   (0x1ee80, 0x1ee89, "\u0627\u0628\u062c\u062f\u0647\u0648\u0632\u062d\u0637\u064a"),
   (0x1ee8e, 0x1ee99, "\u0633\u0639\u0641\u0635\u0642\u0631\u0634\u062a\u062b\u062e\u0630\u0636"),
   (0x1ee9a, 0x1ee9b, "\u0638\u063a"), (0x1eea1, 0x1eea3, "\u0628\u062c\u062f"),
   (0x1eea5, 0x1eea9, "\u0648\u0632\u062d\u0637\u064a"),
   (0x1eeae, 0x1eeb9, "\u0633\u0639\u0641\u0635\u0642\u0631\u0634\u062a\u062b\u062e\u0630\u0636"),
   (0x1eeba, 0x1eebb, "\u0638\u063a"), (0x1f12b, 0x1f12c, "cr"), (0x1f202, 0x1f202, "サ"),
   (0x1f210, 0x1f23b, "手字双デ二多解天交映無料前後再新初終生販声吹演投捕一三遊左中右指走打禁空合満有月申割営配"), (0x1f250, 0x1f251, "得可"),
   (0x2f800, 0x2f847, "丽丸乁𠄢你侮侻倂偺備僧像㒞𠘺免兔兤具𠔜㒹內再𠕋冗冤仌冬况𩇟凵刃㓟刻剆割剷㔕勇勉勤勺包匆北卉卑博即卽卿卿卿𠨬灰及叟𠭣叫叱吆咞吸呈周咢哶唐啓啣善善喙"),
   (0x2f848, 0x2f88f, "喫喳嗂圖嘆圗噑噴切壮城埴堍型堲報墬𡓤売壷夆多夢奢𡚨𡛪姬娛娧姘婦㛮㛼嬈嬾嬾𡧈寃寘寧寳𡬘寿将当尢㞁屠屮峀岍𡷤嵃𡷦嵮嵫嵼巡巢㠯巽帨帽幩㡢𢆃㡼庰庳庶廊𪎒"),
   (0x2f890, 0x2f8d7, "廾𢌱𢌱舁弢弢㣇𣊸𦇚形彫㣣徚忍志忹悁㤺㤜悔𢛔惇慈慌慎慌慺憎憲憤憯懞懲懶成戛扝抱拔捐𢬌挽拼捨掃揤𢯱搢揅掩㨮摩摾撝摷㩬敏敬𣀊旣書晉㬙暑㬈㫤冒冕最暜肭䏙"),
   (0x2f8d8, 0x2f91f, "朗望朡杞杓𣏃㭉柺枅桒梅𣑭梎栟椔㮝楂榣槪檨𣚣櫛㰘次𣢧歔㱎歲殟殺殻𣪍𡴋𣫺汎𣲼沿泍汧洖派海流浩浸涅𣴞洴港湮㴳滋滇𣻑淹潮𣽞𣾎濆瀹瀞瀛㶖灊災灷炭𠔥煅𤉣熜𤎫"),
   (0x2f920, 0x2f967, "爨爵牐𤘈犀犕𤜵𤠔獺王㺬玥㺸㺸瑇瑜瑱璅瓊㼛甤𤰶甾𤲒異𢆟瘐𤾡𤾸𥁄㿼䀈直𥃳𥃲𥄙𥄳眞真真睊䀹瞋䁆䂖𥐝硎碌磌䃣𥘦祖𥚚𥛅福秫䄯穀穊穏𥥼𥪧𥪧竮䈂𥮫篆築䈧𥲀糒䊠"),
   (0x2f968, 0x2f9af, "糨糣紀𥾆絣䌁緇縂繅䌴𦈨𦉇䍙𦋙罺𦌾羕翺者𦓚𦔣聠𦖨聰𣍟䏕育脃䐋脾媵𦞧𦞵𣎓𣎜舁舄辞䑫芑芋芝劳花芳芽苦𦬼若茝荣莭茣莽菧著荓菊菌菜𦰶𦵫𦳕䔫蓱蓳蔖𧏊蕤𦼬䕝䕡"),
   (0x2f9b0, 0x2f9f7, "𦾱𧃒䕫虐虜虧虩蚩蚈蜎蛢蝹蜨蝫螆䗗蟡蠁䗹衠衣𧙧裗裞䘵裺㒻𧢮𧥦䚾䛇誠諭變豕𧲨貫賁贛起𧼯𠠄跋趼跰𠣞軔輸𨗒𨗭邔郱鄑𨜮鄛鈸鋗鋘鉼鏹鐕𨯺開䦕閷𨵷䧦雃嶲霣𩅅𩈚"),
   (0x2f9f8, 0x2fa1d, "䩮䩶韠𩐊䪲𩒖頋頋頩𩖶飢䬳餩馧駂駾䯎𩬰鬒鱀鳽䳎䳭鵧𪃎䳸𪄅𪈎𪊑麻䵖黹黾鼅鼏鼖鼻𪘀")]

def phrases : List (Nat × Nat × String) :=
  [(0xbc, 0xbe, "1⁄4 1⁄2 3⁄4"), (0x130, 0x130, "i\u0307"), (0x132, 0x133, "ij ij"),
   (0x13f, 0x140, "l· l·"), (0x149, 0x149, "ʼn"), (0x1c4, 0x1cc, "dž dž dž lj lj lj nj nj nj"),
   (0x1f1, 0x1f3, "dz dz dz"), (0x344, 0x344, "\u0308\u0301"), (0x587, 0x587, "եւ"),
   (0x675, 0x678, "\u0627\u0674 \u0648\u0674 \u06c7\u0674 \u064a\u0674"),
   (0x958, 0x95f, "क\u093c ख\u093c ग\u093c ज\u093c ड\u093c ढ\u093c फ\u093c य\u093c"),
   (0x9dc, 0x9dd, "ড\u09bc ঢ\u09bc"), (0x9df, 0x9df, "য\u09bc"), (0xa33, 0xa33, "ਲ\u0a3c"),
   (0xa36, 0xa36, "ਸ\u0a3c"), (0xa59, 0xa5b, "ਖ\u0a3c ਗ\u0a3c ਜ\u0a3c"), (0xa5e, 0xa5e, "ਫ\u0a3c"),
   (0xb5c, 0xb5d, "ଡ\u0b3c ଢ\u0b3c"), (0xe33, 0xe33, "\u0e4dา"), (0xeb3, 0xeb3, "\u0ecdາ"),
   (0xedc, 0xedd, "ຫນ ຫມ"), (0xf43, 0xf43, "ག\u0fb7"), (0xf4d, 0xf4d, "ཌ\u0fb7"),
   (0xf52, 0xf52, "ད\u0fb7"), (0xf57, 0xf57, "བ\u0fb7"), (0xf5c, 0xf5c, "ཛ\u0fb7"),
   (0xf69, 0xf69, "ཀ\u0fb5"), (0xf73, 0xf73, "\u0f71\u0f72"),
   (0xf75, 0xf79, "\u0f71\u0f74 \u0fb2\u0f80 \u0fb2\u0f71\u0f80 \u0fb3\u0f80 \u0fb3\u0f71\u0f80"),
   (0xf81, 0xf81, "\u0f71\u0f80"), (0xf93, 0xf93, "\u0f92\u0fb7"), (0xf9d, 0xf9d, "\u0f9c\u0fb7"),
   (0xfa2, 0xfa2, "\u0fa1\u0fb7"), (0xfa7, 0xfa7, "\u0fa6\u0fb7"), (0xfac, 0xfac, "\u0fab\u0fb7"),
   (0xfb9, 0xfb9, "\u0f90\u0fb5"), (0x1e9a, 0x1e9a, "aʾ"),
   (0x1f80, 0x1f98, "ἀι ἁι ἂι ἃι ἄι ἅι ἆι ἇι ἀι ἁι ἂι ἃι ἄι ἅι ἆι ἇι ἠι ἡι ἢι ἣι ἤι ἥι ἦι ἧι ἠι"),
   (0x1f99, 0x1faf, "ἡι ἢι ἣι ἤι ἥι ἦι ἧι ὠι ὡι ὢι ὣι ὤι ὥι ὦι ὧι ὠι ὡι ὢι ὣι ὤι ὥι ὦι ὧι"),
   (0x1fb2, 0x1fb4, "ὰι αι άι"), (0x1fb7, 0x1fb7, "ᾶι"), (0x1fbc, 0x1fbc, "αι"),
   (0x1fc2, 0x1fc4, "ὴι ηι ήι"), (0x1fc7, 0x1fc7, "ῆι"), (0x1fcc, 0x1fcc, "ηι"),
   (0x1ff2, 0x1ff4, "ὼι ωι ώι"), (0x1ff7, 0x1ff7, "ῶι"), (0x1ffc, 0x1ffc, "ωι"),
   (0x2033, 0x2034, "′′ ′′′"), (0x2036, 0x2037, "‵‵ ‵‵‵"), (0x203c, 0x203c, "!!"),
   (0x2047, 0x2049, "?? ?! !?"), (0x2057, 0x2057, "′′′′"), (0x20a8, 0x20a8, "rs"),
   (0x2100, 0x2101, "a/c a/s"), (0x2103, 0x2103, "°c"), (0x2105, 0x2106, "c/o c/u"),
   (0x2109, 0x2109, "°f"), (0x2116, 0x2116, "no"), (0x2120, 0x2122, "sm tel tm"),
   (0x213b, 0x213b, "fax"),
   (0x2150, 0x215f, "1⁄7 1⁄9 1⁄10 1⁄3 2⁄3 1⁄5 2⁄5 3⁄5 4⁄5 1⁄6 5⁄6 1⁄8 3⁄8 5⁄8 7⁄8 1⁄"),
   (0x2161, 0x2163, "ii iii iv"), (0x2165, 0x2168, "vi vii viii ix"), (0x216a, 0x216b, "xi xii"),
   (0x2171, 0x2173, "ii iii iv"), (0x2175, 0x2178, "vi vii viii ix"), (0x217a, 0x217b, "xi xii"),
   (0x2189, 0x2189, "0⁄3"), (0x222c, 0x222d, "∫∫ ∫∫∫"), (0x222f, 0x2230, "∮∮ ∮∮∮"),
   (0x2469, 0x247d, "10 11 12 13 14 15 16 17 18 19 20 (1) (2) (3) (4) (5) (6) (7) (8) (9) (10)"),
   (0x247e, 0x2487, "(11) (12) (13) (14) (15) (16) (17) (18) (19) (20)"),
   (0x249c, 0x24ad, "(a) (b) (c) (d) (e) (f) (g) (h) (i) (j) (k) (l) (m) (n) (o) (p) (q) (r)"),
   (0x24ae, 0x24b5, "(s) (t) (u) (v) (w) (x) (y) (z)"), (0x2a0c, 0x2a0c, "∫∫∫∫"),
   (0x2a74, 0x2a76, "::= == ==="), (0x2adc, 0x2adc, "⫝\u0338"), (0x309f, 0x309f, "より"),
   (0x30ff, 0x30ff, "コト"),
   (0x3200, 0x3211, "(ᄀ) (ᄂ) (ᄃ) (ᄅ) (ᄆ) (ᄇ) (ᄉ) (ᄋ) (ᄌ) (ᄎ) (ᄏ) (ᄐ) (ᄑ) (ᄒ) (가) (나) (다) (라)"),
   (0x3212, 0x321e, "(마) (바) (사) (아) (자) (차) (카) (타) (파) (하) (주) (오전) (오후)"),
   (0x3220, 0x3231, "(一) (二) (三) (四) (五) (六) (七) (八) (九) (十) (月) (火) (水) (木) (金) (土) (日) (株)"),
   (0x3232, 0x3243, "(有) (社) (名) (特) (財) (祝) (労) (代) (呼) (学) (監) (企) (資) (協) (祭) (休) (自) (至)"),
   (0x3250, 0x325f, "pte 21 22 23 24 25 26 27 28 29 30 31 32 33 34 35"), (0x327c, 0x327d, "참고 주의"),
   (0x32b1, 0x32c8, "36 37 38 39 40 41 42 43 44 45 46 47 48 49 50 1月 2月 3月 4月 5月 6月 7月 8月 9月"),
   (0x32c9, 0x32cf, "10月 11月 12月 hg erg ev ltd"),
   (0x32ff, 0x330e, "令和 アパート アルファ アンペア アール イニング インチ ウォン エスクード エーカー オンス オーム カイリ カラット カロリー ガロン"),
   (0x330f, 0x331d, "ガンマ ギガ ギニー キュリー ギルダー キロ キログラム キロメートル キロワット グラム グラムトン クルゼイロ クローネ ケース コルナ"),
   (0x331e, 0x332e, "コーポ サイクル サンチーム シリング センチ セント ダース デシ ドル トン ナノ ノット ハイツ パーセント パーツ バーレル ピアストル"),
   (0x332f, 0x333f, "ピクル ピコ ビル ファラッド フィート ブッシェル フラン ヘクタール ペソ ペニヒ ヘルツ ペンス ページ ベータ ポイント ボルト ホン"),
   (0x3340, 0x3350, "ポンド ホール ホーン マイクロ マイル マッハ マルク マンション ミクロン ミリ ミリバール メガ メガトン メートル ヤード ヤール ユアン"),
   (0x3351, 0x3364, "リットル リラ ルピー ルーブル レム レントゲン ワット 0点 1点 2点 3点 4点 5点 6点 7点 8点 9点 10点 11点 12点"),
   (0x3365, 0x3378, "13点 14点 15点 16点 17点 18点 19点 20点 21点 22点 23点 24点 hpa da au bar ov pc dm dm2"),
   (0x3379, 0x338f, "dm3 iu 平成 昭和 大正 明治 株式会社 pa na μa ma ka kb mb gb cal kcal pf nf μf μg mg kg"),
   (0x3390, 0x33a5, "hz khz mhz ghz thz μl ml dl kl fm nm μm mm cm km mm2 cm2 m2 km2 mm3 cm3 m3"),
   (0x33a6, 0x33b9, "km3 m∕s m∕s2 pa kpa mpa gpa rad rad∕s rad∕s2 ps ns μs ms pv nv μv mv kv mv"),
   (0x33ba, 0x33c1, "pw nw μw mw kw mw kω mω"), (0x33c3, 0x33c6, "bq cc cd c∕kg"),
   (0x33c8, 0x33d7, "db gy ha hp in kk km kt lm ln log lx mb mil mol ph"),
   (0x33d9, 0x33ee, "ppm pr sr sv wb v∕m a∕m 1日 2日 3日 4日 5日 6日 7日 8日 9日 10日 11日 12日 13日 14日 15日"),
   (0x33ef, 0x33ff, "16日 17日 18日 19日 20日 21日 22日 23日 24日 25日 26日 27日 28日 29日 30日 31日 gal"),
   (0xfb00, 0xfb06, "ff fi fl ffi ffl st st"), (0xfb13, 0xfb17, "մն մե մի վն մխ"),
   (0xfb1d, 0xfb1d, "\u05d9\u05b4"), (0xfb1f, 0xfb1f, "\u05f2\u05b7"),
   (0xfb2a, 0xfb2d, "\u05e9\u05c1 \u05e9\u05c2 \u05e9\u05bc\u05c1 \u05e9\u05bc\u05c2"),
   (0xfb2e, 0xfb32, "\u05d0\u05b7 \u05d0\u05b8 \u05d0\u05bc \u05d1\u05bc \u05d2\u05bc"),
   (0xfb33, 0xfb36, "\u05d3\u05bc \u05d4\u05bc \u05d5\u05bc \u05d6\u05bc"),
   (0xfb38, 0xfb3c, "\u05d8\u05bc \u05d9\u05bc \u05da\u05bc \u05db\u05bc \u05dc\u05bc"),
   (0xfb3e, 0xfb3e, "\u05de\u05bc"), (0xfb40, 0xfb41, "\u05e0\u05bc \u05e1\u05bc"),
   (0xfb43, 0xfb44, "\u05e3\u05bc \u05e4\u05bc"),
   (0xfb46, 0xfb4a, "\u05e6\u05bc \u05e7\u05bc \u05e8\u05bc \u05e9\u05bc \u05ea\u05bc"),
   (0xfb4b, 0xfb4f, "\u05d5\u05b9 \u05d1\u05bf \u05db\u05bf \u05e4\u05bf \u05d0\u05dc"),
   (0xfbdd, 0xfbdd, "\u06c7\u0674"),
   (0xfbea, 0xfbee, "\u0626\u0627 \u0626\u0627 \u0626\u06d5 \u0626\u06d5 \u0626\u0648"),
   (0xfbef, 0xfbf3, "\u0626\u0648 \u0626\u06c7 \u0626\u06c7 \u0626\u06c6 \u0626\u06c6"),
   (0xfbf4, 0xfbf8, "\u0626\u06c8 \u0626\u06c8 \u0626\u06d0 \u0626\u06d0 \u0626\u06d0"),
   (0xfbf9, 0xfbfb, "\u0626\u0649 \u0626\u0649 \u0626\u0649"),
   (0xfc00, 0xfc04, "\u0626\u062c \u0626\u062d \u0626\u0645 \u0626\u0649 \u0626\u064a"),
   (0xfc05, 0xfc09, "\u0628\u062c \u0628\u062d \u0628\u062e \u0628\u0645 \u0628\u0649"),
   (0xfc0a, 0xfc0e, "\u0628\u064a \u062a\u062c \u062a\u062d \u062a\u062e \u062a\u0645"),
   (0xfc0f, 0xfc13, "\u062a\u0649 \u062a\u064a \u062b\u062c \u062b\u0645 \u062b\u0649"),
   (0xfc14, 0xfc18, "\u062b\u064a \u062c\u062d \u062c\u0645 \u062d\u062c \u062d\u0645"),
   (0xfc19, 0xfc1d, "\u062e\u062c \u062e\u062d \u062e\u0645 \u0633\u062c \u0633\u062d"),
   (0xfc1e, 0xfc22, "\u0633\u062e \u0633\u0645 \u0635\u062d \u0635\u0645 \u0636\u062c"),
   (0xfc23, 0xfc27, "\u0636\u062d \u0636\u062e \u0636\u0645 \u0637\u062d \u0637\u0645"),
   (0xfc28, 0xfc2c, "\u0638\u0645 \u0639\u062c \u0639\u0645 \u063a\u062c \u063a\u0645"),
   (0xfc2d, 0xfc31, "\u0641\u062c \u0641\u062d \u0641\u062e \u0641\u0645 \u0641\u0649"),
   (0xfc32, 0xfc36, "\u0641\u064a \u0642\u062d \u0642\u0645 \u0642\u0649 \u0642\u064a"),
   (0xfc37, 0xfc3b, "\u0643\u0627 \u0643\u062c \u0643\u062d \u0643\u062e \u0643\u0644"),
   (0xfc3c, 0xfc40, "\u0643\u0645 \u0643\u0649 \u0643\u064a \u0644\u062c \u0644\u062d"),
   (0xfc41, 0xfc45, "\u0644\u062e \u0644\u0645 \u0644\u0649 \u0644\u064a \u0645\u062c"),
   (0xfc46, 0xfc4a, "\u0645\u062d \u0645\u062e \u0645\u0645 \u0645\u0649 \u0645\u064a"),
   (0xfc4b, 0xfc4f, "\u0646\u062c \u0646\u062d \u0646\u062e \u0646\u0645 \u0646\u0649"),
   (0xfc50, 0xfc54, "\u0646\u064a \u0647\u062c \u0647\u0645 \u0647\u0649 \u0647\u064a"),
   (0xfc55, 0xfc59, "\u064a\u062c \u064a\u062d \u064a\u062e \u064a\u0645 \u064a\u0649"),
   (0xfc5a, 0xfc5d, "\u064a\u064a \u0630\u0670 \u0631\u0670 \u0649\u0670"),
   (0xfc64, 0xfc68, "\u0626\u0631 \u0626\u0632 \u0626\u0645 \u0626\u0646 \u0626\u0649"),
   (0xfc69, 0xfc6d, "\u0626\u064a \u0628\u0631 \u0628\u0632 \u0628\u0645 \u0628\u0646"),
   (0xfc6e, 0xfc72, "\u0628\u0649 \u0628\u064a \u062a\u0631 \u062a\u0632 \u062a\u0645"),
   (0xfc73, 0xfc77, "\u062a\u0646 \u062a\u0649 \u062a\u064a \u062b\u0631 \u062b\u0632"),
   (0xfc78, 0xfc7c, "\u062b\u0645 \u062b\u0646 \u062b\u0649 \u062b\u064a \u0641\u0649"),
   (0xfc7d, 0xfc81, "\u0641\u064a \u0642\u0649 \u0642\u064a \u0643\u0627 \u0643\u0644"),
   (0xfc82, 0xfc86, "\u0643\u0645 \u0643\u0649 \u0643\u064a \u0644\u0645 \u0644\u0649"),
   (0xfc87, 0xfc8b, "\u0644\u064a \u0645\u0627 \u0645\u0645 \u0646\u0631 \u0646\u0632"),
   (0xfc8c, 0xfc90, "\u0646\u0645 \u0646\u0646 \u0646\u0649 \u0646\u064a \u0649\u0670"),
   (0xfc91, 0xfc95, "\u064a\u0631 \u064a\u0632 \u064a\u0645 \u064a\u0646 \u064a\u0649"),
   (0xfc96, 0xfc9a, "\u064a\u064a \u0626\u062c \u0626\u062d \u0626\u062e \u0626\u0645"),
   (0xfc9b, 0xfc9f, "\u0626\u0647 \u0628\u062c \u0628\u062d \u0628\u062e \u0628\u0645"),
   (0xfca0, 0xfca4, "\u0628\u0647 \u062a\u062c \u062a\u062d \u062a\u062e \u062a\u0645"),
   (0xfca5, 0xfca9, "\u062a\u0647 \u062b\u0645 \u062c\u062d \u062c\u0645 \u062d\u062c"),
   (0xfcaa, 0xfcae, "\u062d\u0645 \u062e\u062c \u062e\u0645 \u0633\u062c \u0633\u062d"),
   (0xfcaf, 0xfcb3, "\u0633\u062e \u0633\u0645 \u0635\u062d \u0635\u062e \u0635\u0645"),
   (0xfcb4, 0xfcb8, "\u0636\u062c \u0636\u062d \u0636\u062e \u0636\u0645 \u0637\u062d"),
   (0xfcb9, 0xfcbd, "\u0638\u0645 \u0639\u062c \u0639\u0645 \u063a\u062c \u063a\u0645"),
   (0xfcbe, 0xfcc2, "\u0641\u062c \u0641\u062d \u0641\u062e \u0641\u0645 \u0642\u062d"),
   (0xfcc3, 0xfcc7, "\u0642\u0645 \u0643\u062c \u0643\u062d \u0643\u062e \u0643\u0644"),
   (0xfcc8, 0xfccc, "\u0643\u0645 \u0644\u062c \u0644\u062d \u0644\u062e \u0644\u0645"),
   (0xfccd, 0xfcd1, "\u0644\u0647 \u0645\u062c \u0645\u062d \u0645\u062e \u0645\u0645"),
   (0xfcd2, 0xfcd6, "\u0646\u062c \u0646\u062d \u0646\u062e \u0646\u0645 \u0646\u0647"),
   (0xfcd7, 0xfcdb, "\u0647\u062c \u0647\u0645 \u0647\u0670 \u064a\u062c \u064a\u062d"),
   (0xfcdc, 0xfce0, "\u064a\u062e \u064a\u0645 \u064a\u0647 \u0626\u0645 \u0626\u0647"),
   (0xfce1, 0xfce5, "\u0628\u0645 \u0628\u0647 \u062a\u0645 \u062a\u0647 \u062b\u0645"),
   (0xfce6, 0xfcea, "\u062b\u0647 \u0633\u0645 \u0633\u0647 \u0634\u0645 \u0634\u0647"),
   (0xfceb, 0xfcef, "\u0643\u0644 \u0643\u0645 \u0644\u0645 \u0646\u0645 \u0646\u0647"),
   (0xfcf0, 0xfcf3, "\u064a\u0645 \u064a\u0647 \u0640\u064e\u0651 \u0640\u064f\u0651"),
   (0xfcf4, 0xfcf8, "\u0640\u0650\u0651 \u0637\u0649 \u0637\u064a \u0639\u0649 \u0639\u064a"),
   (0xfcf9, 0xfcfd, "\u063a\u0649 \u063a\u064a \u0633\u0649 \u0633\u064a \u0634\u0649"),
   (0xfcfe, 0xfd02, "\u0634\u064a \u062d\u0649 \u062d\u064a \u062c\u0649 \u062c\u064a"),
   (0xfd03, 0xfd07, "\u062e\u0649 \u062e\u064a \u0635\u0649 \u0635\u064a \u0636\u0649"),
   (0xfd08, 0xfd0c, "\u0636\u064a \u0634\u062c \u0634\u062d \u0634\u062e \u0634\u0645"),
   (0xfd0d, 0xfd11, "\u0634\u0631 \u0633\u0631 \u0635\u0631 \u0636\u0631 \u0637\u0649"),
   (0xfd12, 0xfd16, "\u0637\u064a \u0639\u0649 \u0639\u064a \u063a\u0649 \u063a\u064a"),
   (0xfd17, 0xfd1b, "\u0633\u0649 \u0633\u064a \u0634\u0649 \u0634\u064a \u062d\u0649"),
   (0xfd1c, 0xfd20, "\u062d\u064a \u062c\u0649 \u062c\u064a \u062e\u0649 \u062e\u064a"),
   (0xfd21, 0xfd25, "\u0635\u0649 \u0635\u064a \u0636\u0649 \u0636\u064a \u0634\u062c"),
   (0xfd26, 0xfd2a, "\u0634\u062d \u0634\u062e \u0634\u0645 \u0634\u0631 \u0633\u0631"),
   (0xfd2b, 0xfd2f, "\u0635\u0631 \u0636\u0631 \u0634\u062c \u0634\u062d \u0634\u062e"),
   (0xfd30, 0xfd34, "\u0634\u0645 \u0633\u0647 \u0634\u0647 \u0637\u0645 \u0633\u062c"),
   (0xfd35, 0xfd39, "\u0633\u062d \u0633\u062e \u0634\u062c \u0634\u062d \u0634\u062e"),
   (0xfd3a, 0xfd3d, "\u0637\u0645 \u0638\u0645 \u0627\u064b \u0627\u064b"),
   (0xfd50, 0xfd52, "\u062a\u062c\u0645 \u062a\u062d\u062c \u062a\u062d\u062c"),
   (0xfd53, 0xfd55, "\u062a\u062d\u0645 \u062a\u062e\u0645 \u062a\u0645\u062c"),
   (0xfd56, 0xfd58, "\u062a\u0645\u062d \u062a\u0645\u062e \u062c\u0645\u062d"),
   (0xfd59, 0xfd5b, "\u062c\u0645\u062d \u062d\u0645\u064a \u062d\u0645\u0649"),
   (0xfd5c, 0xfd5e, "\u0633\u062d\u062c \u0633\u062c\u062d \u0633\u062c\u0649"),
   (0xfd5f, 0xfd61, "\u0633\u0645\u062d \u0633\u0645\u062d \u0633\u0645\u062c"),
   (0xfd62, 0xfd64, "\u0633\u0645\u0645 \u0633\u0645\u0645 \u0635\u062d\u062d"),
   (0xfd65, 0xfd67, "\u0635\u062d\u062d \u0635\u0645\u0645 \u0634\u062d\u0645"),
   (0xfd68, 0xfd6a, "\u0634\u062d\u0645 \u0634\u062c\u064a \u0634\u0645\u062e"),
   (0xfd6b, 0xfd6d, "\u0634\u0645\u062e \u0634\u0645\u0645 \u0634\u0645\u0645"),
   (0xfd6e, 0xfd70, "\u0636\u062d\u0649 \u0636\u062e\u0645 \u0636\u062e\u0645"),
   (0xfd71, 0xfd73, "\u0637\u0645\u062d \u0637\u0645\u062d \u0637\u0645\u0645"),
   (0xfd74, 0xfd76, "\u0637\u0645\u064a \u0639\u062c\u0645 \u0639\u0645\u0645"),
   (0xfd77, 0xfd79, "\u0639\u0645\u0645 \u0639\u0645\u0649 \u063a\u0645\u0645"),
   (0xfd7a, 0xfd7c, "\u063a\u0645\u064a \u063a\u0645\u0649 \u0641\u062e\u0645"),
   (0xfd7d, 0xfd7f, "\u0641\u062e\u0645 \u0642\u0645\u062d \u0642\u0645\u0645"),
   (0xfd80, 0xfd82, "\u0644\u062d\u0645 \u0644\u062d\u064a \u0644\u062d\u0649"),
   (0xfd83, 0xfd85, "\u0644\u062c\u062c \u0644\u062c\u062c \u0644\u062e\u0645"),
   (0xfd86, 0xfd88, "\u0644\u062e\u0645 \u0644\u0645\u062d \u0644\u0645\u062d"),
   (0xfd89, 0xfd8b, "\u0645\u062d\u062c \u0645\u062d\u0645 \u0645\u062d\u064a"),
   (0xfd8c, 0xfd8e, "\u0645\u062c\u062d \u0645\u062c\u0645 \u0645\u062e\u062c"),
   (0xfd8f, 0xfd8f, "\u0645\u062e\u0645"),
   (0xfd92, 0xfd94, "\u0645\u062c\u062e \u0647\u0645\u062c \u0647\u0645\u0645"),
   (0xfd95, 0xfd97, "\u0646\u062d\u0645 \u0646\u062d\u0649 \u0646\u062c\u0645"),
   (0xfd98, 0xfd9a, "\u0646\u062c\u0645 \u0646\u062c\u0649 \u0646\u0645\u064a"),
   (0xfd9b, 0xfd9d, "\u0646\u0645\u0649 \u064a\u0645\u0645 \u064a\u0645\u0645"),
   (0xfd9e, 0xfda0, "\u0628\u062e\u064a \u062a\u062c\u064a \u062a\u062c\u0649"),
   (0xfda1, 0xfda3, "\u062a\u062e\u064a \u062a\u062e\u0649 \u062a\u0645\u064a"),
   (0xfda4, 0xfda6, "\u062a\u0645\u0649 \u062c\u0645\u064a \u062c\u062d\u0649"),
   (0xfda7, 0xfda9, "\u062c\u0645\u0649 \u0633\u062e\u0649 \u0635\u062d\u064a"),
   (0xfdaa, 0xfdac, "\u0634\u062d\u064a \u0636\u062d\u064a \u0644\u062c\u064a"),
   (0xfdad, 0xfdaf, "\u0644\u0645\u064a \u064a\u062d\u064a \u064a\u062c\u064a"),
   (0xfdb0, 0xfdb2, "\u064a\u0645\u064a \u0645\u0645\u064a \u0642\u0645\u064a"),
   (0xfdb3, 0xfdb5, "\u0646\u062d\u064a \u0642\u0645\u062d \u0644\u062d\u0645"),
   (0xfdb6, 0xfdb8, "\u0639\u0645\u064a \u0643\u0645\u064a \u0646\u062c\u062d"),
   (0xfdb9, 0xfdbb, "\u0645\u062e\u064a \u0644\u062c\u0645 \u0643\u0645\u0645"),
   (0xfdbc, 0xfdbe, "\u0644\u062c\u0645 \u0646\u062c\u062d \u062c\u062d\u064a"),
   (0xfdbf, 0xfdc1, "\u062d\u062c\u064a \u0645\u062c\u064a \u0641\u0645\u064a"),
   (0xfdc2, 0xfdc4, "\u0628\u062d\u064a \u0643\u0645\u0645 \u0639\u062c\u0645"),
   (0xfdc5, 0xfdc7, "\u0635\u0645\u0645 \u0633\u062e\u064a \u0646\u062c\u064a"),
   (0xfdf0, 0xfdf2, "\u0635\u0644\u06d2 \u0642\u0644\u06d2 \u0627\u0644\u0644\u0647"),
   (0xfdf3, 0xfdf5, "\u0627\u0643\u0628\u0631 \u0645\u062d\u0645\u062f \u0635\u0644\u0639\u0645"),
   (0xfdf6, 0xfdf8, "\u0631\u0633\u0648\u0644 \u0639\u0644\u064a\u0647 \u0648\u0633\u0644\u0645"),
   (0xfdf9, 0xfdf9, "\u0635\u0644\u0649"), (0xfdfc, 0xfdfc, "\u0631\u06cc\u0627\u0644"),
   (0xfe71, 0xfe71, "\u0640\u064b"), (0xfe77, 0xfe77, "\u0640\u064e"),
   (0xfe79, 0xfe79, "\u0640\u064f"), (0xfe7b, 0xfe7b, "\u0640\u0650"),
   (0xfe7d, 0xfe7d, "\u0640\u0651"), (0xfe7f, 0xfe7f, "\u0640\u0652"),
   (0xfef5, 0xfef9, "\u0644\u0622 \u0644\u0622 \u0644\u0623 \u0644\u0623 \u0644\u0625"),
   (0xfefa, 0xfefc, "\u0644\u0625 \u0644\u0627 \u0644\u0627"),
   (0x1d15e, 0x1d164, "𝅗𝅥 𝅘𝅥 𝅘𝅥𝅮 𝅘𝅥𝅯 𝅘𝅥𝅰 𝅘𝅥𝅱 𝅘𝅥𝅲"), (0x1d1bb, 0x1d1c0, "𝆹𝅥 𝆺𝅥 𝆹𝅥𝅮 𝆺𝅥𝅮 𝆹𝅥𝅯 𝆺𝅥𝅯"),
   (0x1f101, 0x1f10a, "0, 1, 2, 3, 4, 5, 6, 7, 8, 9,"),
   (0x1f110, 0x1f121, "(a) (b) (c) (d) (e) (f) (g) (h) (i) (j) (k) (l) (m) (n) (o) (p) (q) (r)"),
   (0x1f122, 0x1f12a, "(s) (t) (u) (v) (w) (x) (y) (z) 〔s〕"), (0x1f12d, 0x1f12e, "cd wz"),
   (0x1f14a, 0x1f14f, "hv mv sd ss ppv wc"), (0x1f16a, 0x1f16c, "mc md mr"),
   (0x1f190, 0x1f190, "dj"), (0x1f200, 0x1f201, "ほか ココ"),
   (0x1f240, 0x1f248, "〔本〕 〔三〕 〔二〕 〔安〕 〔点〕 〔打〕 〔盗〕 〔勝〕 〔敗〕")]

def ignored : Text.Ranges :=
  [(0xad, 0xad), (0x34f, 0x34f), (0x115f, 0x1160), (0x17b4, 0x17b5), (0x180b, 0x180f),
   (0x200b, 0x200b), (0x2060, 0x2064), (0x206a, 0x206f), (0x3164, 0x3164), (0xfe00, 0xfe0f),
   (0xfeff, 0xfeff), (0xffa0, 0xffa0), (0x1bca0, 0x1bca3), (0x1d173, 0x1d17a), (0xe0100, 0xe01ef)]

/-- Visible characters that may not occur: those that would hide a full stop or a space, those that
describe others, and replacements. -/
def refused : Text.Ranges :=
  [(0xa8, 0xa8), (0xaf, 0xaf), (0xb4, 0xb4), (0xb8, 0xb8), (0x2d8, 0x2dd), (0x37a, 0x37a),
   (0x384, 0x385), (0x1fbd, 0x1fbd), (0x1fbf, 0x1fc1), (0x1fcd, 0x1fcf), (0x1fdd, 0x1fdf),
   (0x1fed, 0x1fee), (0x1ffd, 0x1ffe), (0x2017, 0x2017), (0x2024, 0x2026), (0x203e, 0x203e),
   (0x2488, 0x249b), (0x2ff0, 0x2fff), (0x309b, 0x309c), (0x31ef, 0x31ef), (0x33c2, 0x33c2),
   (0x33c7, 0x33c7), (0x33d8, 0x33d8), (0xfc5e, 0xfc63), (0xfdfa, 0xfdfb), (0xfe12, 0xfe12),
   (0xfe19, 0xfe19), (0xfe30, 0xfe30), (0xfe49, 0xfe4c), (0xfe52, 0xfe52), (0xfe70, 0xfe70),
   (0xfe72, 0xfe72), (0xfe74, 0xfe74), (0xfe76, 0xfe76), (0xfe78, 0xfe78), (0xfe7a, 0xfe7a),
   (0xfe7c, 0xfe7c), (0xfe7e, 0xfe7e), (0xffe3, 0xffe3), (0xfffc, 0xfffd), (0x1f100, 0x1f100)]

/-- Whether a character is one of those that show nothing but keep letters apart or together. -/
def isJoiner (c : Char) : Bool := c = '\u200c' || c = '\u200d'

def mapped? (c : Char) : Option (List Char) :=
  let index (first : Nat) : Nat := c.toNat - first
  match runs.find? fun run =>
      run.1 ≤ c.toNat && c.toNat ≤ run.2.1 && index run.1 % run.2.2.1 = 0 with
  | some run => some [Char.ofNat (c.toNat + run.2.2.2).toNat]
  | none =>
      match letters.find? fun run => run.1 ≤ c.toNat && c.toNat ≤ run.2.1 with
      | some run => some (run.2.2.toList.drop (index run.1)).head?.toList
      | none =>
          match phrases.find? fun run => run.1 ≤ c.toNat && c.toNat ≤ run.2.1 with
          | some run => some (((run.2.2.splitOn " ").drop (index run.1)).headD "").toList
          | none => none

def map (c : Char) : Option (List Char) :=
  if ignored.has c then some []
  else
    match mapped? c with
    | some text => some text
    | none =>
        if refused.has c || (128 ≤ c.toNat && Text.unprintable.has c && !isJoiner c) then none
        else some [c]

end FlagBoard.Http.NameMapping
