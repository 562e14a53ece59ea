set_option autoImplicit false

/-!
# Table of the blocks

The first and the last code point of each block with its name, in capitals and without separators.
-/
namespace ReleaseMatch.Text

def blocks : List (Nat × Nat × String) := [
  (0, 127, "BASICLATIN"), (128, 255, "LATIN1SUPPLEMENT"), (256, 383, "LATINEXTENDEDA"),
  (384, 591, "LATINEXTENDEDB"), (592, 687, "IPAEXTENSIONS"),
  (688, 767, "SPACINGMODIFIERLETTERS"), (768, 879, "COMBININGDIACRITICALMARKS"),
  (880, 1023, "GREEKANDCOPTIC"), (1024, 1279, "CYRILLIC"), (1280, 1327, "CYRILLICSUPPLEMENT"),
  (1328, 1423, "ARMENIAN"), (1424, 1535, "HEBREW"), (1536, 1791, "ARABIC"),
  (1792, 1871, "SYRIAC"), (1872, 1919, "ARABICSUPPLEMENT"), (1920, 1983, "THAANA"),
  (1984, 2047, "NKO"), (2048, 2111, "SAMARITAN"), (2112, 2143, "MANDAIC"),
  (2144, 2159, "SYRIACSUPPLEMENT"), (2160, 2207, "ARABICEXTENDEDB"),
  (2208, 2303, "ARABICEXTENDEDA"), (2304, 2431, "DEVANAGARI"), (2432, 2559, "BENGALI"),
  (2560, 2687, "GURMUKHI"), (2688, 2815, "GUJARATI"), (2816, 2943, "ORIYA"),
  (2944, 3071, "TAMIL"), (3072, 3199, "TELUGU"), (3200, 3327, "KANNADA"),
  (3328, 3455, "MALAYALAM"), (3456, 3583, "SINHALA"), (3584, 3711, "THAI"), (3712, 3839, "LAO"),
  (3840, 4095, "TIBETAN"), (4096, 4255, "MYANMAR"), (4256, 4351, "GEORGIAN"),
  (4352, 4607, "HANGULJAMO"), (4608, 4991, "ETHIOPIC"), (4992, 5023, "ETHIOPICSUPPLEMENT"),
  (5024, 5119, "CHEROKEE"), (5120, 5759, "UNIFIEDCANADIANABORIGINALSYLLABICS"),
  (5760, 5791, "OGHAM"), (5792, 5887, "RUNIC"), (5888, 5919, "TAGALOG"),
  (5920, 5951, "HANUNOO"), (5952, 5983, "BUHID"), (5984, 6015, "TAGBANWA"),
  (6016, 6143, "KHMER"), (6144, 6319, "MONGOLIAN"),
  (6320, 6399, "UNIFIEDCANADIANABORIGINALSYLLABICSEXTENDED"), (6400, 6479, "LIMBU"),
  (6480, 6527, "TAILE"), (6528, 6623, "NEWTAILUE"), (6624, 6655, "KHMERSYMBOLS"),
  (6656, 6687, "BUGINESE"), (6688, 6831, "TAITHAM"),
  (6832, 6911, "COMBININGDIACRITICALMARKSEXTENDED"), (6912, 7039, "BALINESE"),
  (7040, 7103, "SUNDANESE"), (7104, 7167, "BATAK"), (7168, 7247, "LEPCHA"),
  (7248, 7295, "OLCHIKI"), (7296, 7311, "CYRILLICEXTENDEDC"), (7312, 7359, "GEORGIANEXTENDED"),
  (7360, 7375, "SUNDANESESUPPLEMENT"), (7376, 7423, "VEDICEXTENSIONS"),
  (7424, 7551, "PHONETICEXTENSIONS"), (7552, 7615, "PHONETICEXTENSIONSSUPPLEMENT"),
  (7616, 7679, "COMBININGDIACRITICALMARKSSUPPLEMENT"), (7680, 7935, "LATINEXTENDEDADDITIONAL"),
  (7936, 8191, "GREEKEXTENDED"), (8192, 8303, "GENERALPUNCTUATION"),
  (8304, 8351, "SUPERSCRIPTSANDSUBSCRIPTS"), (8352, 8399, "CURRENCYSYMBOLS"),
  (8400, 8447, "COMBININGDIACRITICALMARKSFORSYMBOLS"), (8448, 8527, "LETTERLIKESYMBOLS"),
  (8528, 8591, "NUMBERFORMS"), (8592, 8703, "ARROWS"), (8704, 8959, "MATHEMATICALOPERATORS"),
  (8960, 9215, "MISCELLANEOUSTECHNICAL"), (9216, 9279, "CONTROLPICTURES"),
  (9280, 9311, "OPTICALCHARACTERRECOGNITION"), (9312, 9471, "ENCLOSEDALPHANUMERICS"),
  (9472, 9599, "BOXDRAWING"), (9600, 9631, "BLOCKELEMENTS"), (9632, 9727, "GEOMETRICSHAPES"),
  (9728, 9983, "MISCELLANEOUSSYMBOLS"), (9984, 10175, "DINGBATS"),
  (10176, 10223, "MISCELLANEOUSMATHEMATICALSYMBOLSA"), (10224, 10239, "SUPPLEMENTALARROWSA"),
  (10240, 10495, "BRAILLEPATTERNS"), (10496, 10623, "SUPPLEMENTALARROWSB"),
  (10624, 10751, "MISCELLANEOUSMATHEMATICALSYMBOLSB"),
  (10752, 11007, "SUPPLEMENTALMATHEMATICALOPERATORS"),
  (11008, 11263, "MISCELLANEOUSSYMBOLSANDARROWS"), (11264, 11359, "GLAGOLITIC"),
  (11360, 11391, "LATINEXTENDEDC"), (11392, 11519, "COPTIC"),
  (11520, 11567, "GEORGIANSUPPLEMENT"), (11568, 11647, "TIFINAGH"),
  (11648, 11743, "ETHIOPICEXTENDED"), (11744, 11775, "CYRILLICEXTENDEDA"),
  (11776, 11903, "SUPPLEMENTALPUNCTUATION"), (11904, 12031, "CJKRADICALSSUPPLEMENT"),
  (12032, 12255, "KANGXIRADICALS"), (12272, 12287, "IDEOGRAPHICDESCRIPTIONCHARACTERS"),
  (12288, 12351, "CJKSYMBOLSANDPUNCTUATION"), (12352, 12447, "HIRAGANA"),
  (12448, 12543, "KATAKANA"), (12544, 12591, "BOPOMOFO"),
  (12592, 12687, "HANGULCOMPATIBILITYJAMO"), (12688, 12703, "KANBUN"),
  (12704, 12735, "BOPOMOFOEXTENDED"), (12736, 12783, "CJKSTROKES"),
  (12784, 12799, "KATAKANAPHONETICEXTENSIONS"), (12800, 13055, "ENCLOSEDCJKLETTERSANDMONTHS"),
  (13056, 13311, "CJKCOMPATIBILITY"), (13312, 19903, "CJKUNIFIEDIDEOGRAPHSEXTENSIONA"),
  (19904, 19967, "YIJINGHEXAGRAMSYMBOLS"), (19968, 40959, "CJKUNIFIEDIDEOGRAPHS"),
  (40960, 42127, "YISYLLABLES"), (42128, 42191, "YIRADICALS"), (42192, 42239, "LISU"),
  (42240, 42559, "VAI"), (42560, 42655, "CYRILLICEXTENDEDB"), (42656, 42751, "BAMUM"),
  (42752, 42783, "MODIFIERTONELETTERS"), (42784, 43007, "LATINEXTENDEDD"),
  (43008, 43055, "SYLOTINAGRI"), (43056, 43071, "COMMONINDICNUMBERFORMS"),
  (43072, 43135, "PHAGSPA"), (43136, 43231, "SAURASHTRA"), (43232, 43263, "DEVANAGARIEXTENDED"),
  (43264, 43311, "KAYAHLI"), (43312, 43359, "REJANG"), (43360, 43391, "HANGULJAMOEXTENDEDA"),
  (43392, 43487, "JAVANESE"), (43488, 43519, "MYANMAREXTENDEDB"), (43520, 43615, "CHAM"),
  (43616, 43647, "MYANMAREXTENDEDA"), (43648, 43743, "TAIVIET"),
  (43744, 43775, "MEETEIMAYEKEXTENSIONS"), (43776, 43823, "ETHIOPICEXTENDEDA"),
  (43824, 43887, "LATINEXTENDEDE"), (43888, 43967, "CHEROKEESUPPLEMENT"),
  (43968, 44031, "MEETEIMAYEK"), (44032, 55215, "HANGULSYLLABLES"),
  (55216, 55295, "HANGULJAMOEXTENDEDB"), (55296, 56191, "HIGHSURROGATES"),
  (56192, 56319, "HIGHPRIVATEUSESURROGATES"), (56320, 57343, "LOWSURROGATES"),
  (57344, 63743, "PRIVATEUSEAREA"), (63744, 64255, "CJKCOMPATIBILITYIDEOGRAPHS"),
  (64256, 64335, "ALPHABETICPRESENTATIONFORMS"), (64336, 65023, "ARABICPRESENTATIONFORMSA"),
  (65024, 65039, "VARIATIONSELECTORS"), (65040, 65055, "VERTICALFORMS"),
  (65056, 65071, "COMBININGHALFMARKS"), (65072, 65103, "CJKCOMPATIBILITYFORMS"),
  (65104, 65135, "SMALLFORMVARIANTS"), (65136, 65279, "ARABICPRESENTATIONFORMSB"),
  (65280, 65519, "HALFWIDTHANDFULLWIDTHFORMS"), (65520, 65535, "SPECIALS"),
  (65536, 65663, "LINEARBSYLLABARY"), (65664, 65791, "LINEARBIDEOGRAMS"),
  (65792, 65855, "AEGEANNUMBERS"), (65856, 65935, "ANCIENTGREEKNUMBERS"),
  (65936, 65999, "ANCIENTSYMBOLS"), (66000, 66047, "PHAISTOSDISC"), (66176, 66207, "LYCIAN"),
  (66208, 66271, "CARIAN"), (66272, 66303, "COPTICEPACTNUMBERS"), (66304, 66351, "OLDITALIC"),
  (66352, 66383, "GOTHIC"), (66384, 66431, "OLDPERMIC"), (66432, 66463, "UGARITIC"),
  (66464, 66527, "OLDPERSIAN"), (66560, 66639, "DESERET"), (66640, 66687, "SHAVIAN"),
  (66688, 66735, "OSMANYA"), (66736, 66815, "OSAGE"), (66816, 66863, "ELBASAN"),
  (66864, 66927, "CAUCASIANALBANIAN"), (66928, 67007, "VITHKUQI"), (67072, 67455, "LINEARA"),
  (67456, 67519, "LATINEXTENDEDF"), (67584, 67647, "CYPRIOTSYLLABARY"),
  (67648, 67679, "IMPERIALARAMAIC"), (67680, 67711, "PALMYRENE"), (67712, 67759, "NABATAEAN"),
  (67808, 67839, "HATRAN"), (67840, 67871, "PHOENICIAN"), (67872, 67903, "LYDIAN"),
  (67968, 67999, "MEROITICHIEROGLYPHS"), (68000, 68095, "MEROITICCURSIVE"),
  (68096, 68191, "KHAROSHTHI"), (68192, 68223, "OLDSOUTHARABIAN"),
  (68224, 68255, "OLDNORTHARABIAN"), (68288, 68351, "MANICHAEAN"), (68352, 68415, "AVESTAN"),
  (68416, 68447, "INSCRIPTIONALPARTHIAN"), (68448, 68479, "INSCRIPTIONALPAHLAVI"),
  (68480, 68527, "PSALTERPAHLAVI"), (68608, 68687, "OLDTURKIC"), (68736, 68863, "OLDHUNGARIAN"),
  (68864, 68927, "HANIFIROHINGYA"), (69216, 69247, "RUMINUMERALSYMBOLS"),
  (69248, 69311, "YEZIDI"), (69312, 69375, "ARABICEXTENDEDC"), (69376, 69423, "OLDSOGDIAN"),
  (69424, 69487, "SOGDIAN"), (69488, 69551, "OLDUYGHUR"), (69552, 69599, "CHORASMIAN"),
  (69600, 69631, "ELYMAIC"), (69632, 69759, "BRAHMI"), (69760, 69839, "KAITHI"),
  (69840, 69887, "SORASOMPENG"), (69888, 69967, "CHAKMA"), (69968, 70015, "MAHAJANI"),
  (70016, 70111, "SHARADA"), (70112, 70143, "SINHALAARCHAICNUMBERS"), (70144, 70223, "KHOJKI"),
  (70272, 70319, "MULTANI"), (70320, 70399, "KHUDAWADI"), (70400, 70527, "GRANTHA"),
  (70656, 70783, "NEWA"), (70784, 70879, "TIRHUTA"), (71040, 71167, "SIDDHAM"),
  (71168, 71263, "MODI"), (71264, 71295, "MONGOLIANSUPPLEMENT"), (71296, 71375, "TAKRI"),
  (71424, 71503, "AHOM"), (71680, 71759, "DOGRA"), (71840, 71935, "WARANGCITI"),
  (71936, 72031, "DIVESAKURU"), (72096, 72191, "NANDINAGARI"),
  (72192, 72271, "ZANABAZARSQUARE"), (72272, 72367, "SOYOMBO"),
  (72368, 72383, "UNIFIEDCANADIANABORIGINALSYLLABICSEXTENDEDA"), (72384, 72447, "PAUCINHAU"),
  (72448, 72543, "DEVANAGARIEXTENDEDA"), (72704, 72815, "BHAIKSUKI"), (72816, 72895, "MARCHEN"),
  (72960, 73055, "MASARAMGONDI"), (73056, 73135, "GUNJALAGONDI"), (73440, 73471, "MAKASAR"),
  (73472, 73567, "KAWI"), (73648, 73663, "LISUSUPPLEMENT"), (73664, 73727, "TAMILSUPPLEMENT"),
  (73728, 74751, "CUNEIFORM"), (74752, 74879, "CUNEIFORMNUMBERSANDPUNCTUATION"),
  (74880, 75087, "EARLYDYNASTICCUNEIFORM"), (77712, 77823, "CYPROMINOAN"),
  (77824, 78895, "EGYPTIANHIEROGLYPHS"), (78896, 78943, "EGYPTIANHIEROGLYPHFORMATCONTROLS"),
  (82944, 83583, "ANATOLIANHIEROGLYPHS"), (92160, 92735, "BAMUMSUPPLEMENT"),
  (92736, 92783, "MRO"), (92784, 92879, "TANGSA"), (92880, 92927, "BASSAVAH"),
  (92928, 93071, "PAHAWHHMONG"), (93760, 93855, "MEDEFAIDRIN"), (93952, 94111, "MIAO"),
  (94176, 94207, "IDEOGRAPHICSYMBOLSANDPUNCTUATION"), (94208, 100351, "TANGUT"),
  (100352, 101119, "TANGUTCOMPONENTS"), (101120, 101631, "KHITANSMALLSCRIPT"),
  (101632, 101759, "TANGUTSUPPLEMENT"), (110576, 110591, "KANAEXTENDEDB"),
  (110592, 110847, "KANASUPPLEMENT"), (110848, 110895, "KANAEXTENDEDA"),
  (110896, 110959, "SMALLKANAEXTENSION"), (110960, 111359, "NUSHU"),
  (113664, 113823, "DUPLOYAN"), (113824, 113839, "SHORTHANDFORMATCONTROLS"),
  (118528, 118735, "ZNAMENNYMUSICALNOTATION"), (118784, 119039, "BYZANTINEMUSICALSYMBOLS"),
  (119040, 119295, "MUSICALSYMBOLS"), (119296, 119375, "ANCIENTGREEKMUSICALNOTATION"),
  (119488, 119519, "KAKTOVIKNUMERALS"), (119520, 119551, "MAYANNUMERALS"),
  (119552, 119647, "TAIXUANJINGSYMBOLS"), (119648, 119679, "COUNTINGRODNUMERALS"),
  (119808, 120831, "MATHEMATICALALPHANUMERICSYMBOLS"), (120832, 121519, "SUTTONSIGNWRITING"),
  (122624, 122879, "LATINEXTENDEDG"), (122880, 122927, "GLAGOLITICSUPPLEMENT"),
  (122928, 123023, "CYRILLICEXTENDEDD"), (123136, 123215, "NYIAKENGPUACHUEHMONG"),
  (123536, 123583, "TOTO"), (123584, 123647, "WANCHO"), (124112, 124159, "NAGMUNDARI"),
  (124896, 124927, "ETHIOPICEXTENDEDB"), (124928, 125151, "MENDEKIKAKUI"),
  (125184, 125279, "ADLAM"), (126064, 126143, "INDICSIYAQNUMBERS"),
  (126208, 126287, "OTTOMANSIYAQNUMBERS"),
  (126464, 126719, "ARABICMATHEMATICALALPHABETICSYMBOLS"), (126976, 127023, "MAHJONGTILES"),
  (127024, 127135, "DOMINOTILES"), (127136, 127231, "PLAYINGCARDS"),
  (127232, 127487, "ENCLOSEDALPHANUMERICSUPPLEMENT"),
  (127488, 127743, "ENCLOSEDIDEOGRAPHICSUPPLEMENT"),
  (127744, 128511, "MISCELLANEOUSSYMBOLSANDPICTOGRAPHS"), (128512, 128591, "EMOTICONS"),
  (128592, 128639, "ORNAMENTALDINGBATS"), (128640, 128767, "TRANSPORTANDMAPSYMBOLS"),
  (128768, 128895, "ALCHEMICALSYMBOLS"), (128896, 129023, "GEOMETRICSHAPESEXTENDED"),
  (129024, 129279, "SUPPLEMENTALARROWSC"),
  (129280, 129535, "SUPPLEMENTALSYMBOLSANDPICTOGRAPHS"), (129536, 129647, "CHESSSYMBOLS"),
  (129648, 129791, "SYMBOLSANDPICTOGRAPHSEXTENDEDA"),
  (129792, 130047, "SYMBOLSFORLEGACYCOMPUTING"),
  (131072, 173791, "CJKUNIFIEDIDEOGRAPHSEXTENSIONB"),
  (173824, 177983, "CJKUNIFIEDIDEOGRAPHSEXTENSIONC"),
  (177984, 178207, "CJKUNIFIEDIDEOGRAPHSEXTENSIOND"),
  (178208, 183983, "CJKUNIFIEDIDEOGRAPHSEXTENSIONE"),
  (183984, 191471, "CJKUNIFIEDIDEOGRAPHSEXTENSIONF"),
  (194560, 195103, "CJKCOMPATIBILITYIDEOGRAPHSSUPPLEMENT"),
  (196608, 201551, "CJKUNIFIEDIDEOGRAPHSEXTENSIONG"),
  (201552, 205743, "CJKUNIFIEDIDEOGRAPHSEXTENSIONH"), (917504, 917631, "TAGS"),
  (917760, 917999, "VARIATIONSELECTORSSUPPLEMENT"),
  (983040, 1048575, "SUPPLEMENTARYPRIVATEUSEAREAA"),
  (1048576, 1114111, "SUPPLEMENTARYPRIVATEUSEAREAB")]

end ReleaseMatch.Text
