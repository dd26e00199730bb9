import PathRouting.Regex.Unicode.Table

/-! # Scripts

The script of each code, and the scripts that a character is used in where that is not just the one.
-/

namespace PathRouting

namespace Regex

namespace Unicode

/-- The script of each code; `Zzzz` is none. -/
def scriptTable : List String :=
  ["Zyyy65Latn26Zyyy6Latn26Zyyy47LatnZyyy15LatnZyyy5Latn23ZyyyLatn31ZyyyLatn449Zyyy39Latn5Zyyy5",
   "Bopo2Zyyy20Zinh112Grek4ZyyyGrek3Zzzz2Grek4ZyyyGrekZzzz4GrekZyyyGrekZyyyGrek3ZzzzGrekZzzz",
   "Grek20ZzzzGrek63Copt14Grek16Cyrl133Zinh2Cyrl169ZzzzArmn38Zzzz2Armn50Zzzz2Armn3ZzzzHebr55Zzzz8",
   "Hebr27Zzzz4Hebr6Zzzz11Arab5ZyyyArab6ZyyyArab14ZyyyArab3ZyyyArab32ZyyyArab10Zinh11Arab26Zinh",
   "Arab108ZyyyArab34Syrc14ZzzzSyrc60Zzzz2Syrc3Arab48Thaa50Zzzz14Nkoo59Zzzz2Nkoo3Samr46Zzzz2",
   "Samr15ZzzzMand28Zzzz2MandZzzzSyrc11Zzzz5Arab31ZzzzArab2Zzzz5Arab75ZyyyArab29Deva81Zinh4Deva15",
   "Zyyy2Deva26Beng4ZzzzBeng8Zzzz2Beng2Zzzz2Beng22ZzzzBeng7ZzzzBengZzzz3Beng4Zzzz2Beng9Zzzz2Beng2",
   "Zzzz2Beng4Zzzz8BengZzzz4Beng2ZzzzBeng5Zzzz2Beng25Zzzz2Guru3ZzzzGuru6Zzzz4Guru2Zzzz2Guru22Zzzz",
   "Guru7ZzzzGuru2ZzzzGuru2ZzzzGuru2Zzzz2GuruZzzzGuru5Zzzz4Guru2Zzzz2Guru3Zzzz3GuruZzzz7Guru4Zzzz",
   "GuruZzzz7Guru17Zzzz10Gujr3ZzzzGujr9ZzzzGujr3ZzzzGujr22ZzzzGujr7ZzzzGujr2ZzzzGujr5Zzzz2Gujr10",
   "ZzzzGujr3ZzzzGujr3Zzzz2GujrZzzz15Gujr4Zzzz2Gujr12Zzzz7Gujr7ZzzzOrya3ZzzzOrya8Zzzz2Orya2Zzzz2",
   "Orya22ZzzzOrya7ZzzzOrya2ZzzzOrya5Zzzz2Orya9Zzzz2Orya2Zzzz2Orya3Zzzz7Orya3Zzzz4Orya2ZzzzOrya5",
   "Zzzz2Orya18Zzzz10Taml2ZzzzTaml6Zzzz3Taml3ZzzzTaml4Zzzz3Taml2ZzzzTamlZzzzTaml2Zzzz3Taml2Zzzz3",
   "Taml3Zzzz3Taml12Zzzz4Taml5Zzzz3Taml3ZzzzTaml4Zzzz2TamlZzzz6TamlZzzz14Taml21Zzzz5Telu13Zzzz",
   "Telu3ZzzzTelu23ZzzzTelu16Zzzz2Telu9ZzzzTelu3ZzzzTelu4Zzzz7Telu2ZzzzTelu3Zzzz2TeluZzzz2Telu4",
   "Zzzz2Telu10Zzzz7Telu9Knda13ZzzzKnda3ZzzzKnda23ZzzzKnda10ZzzzKnda5Zzzz2Knda9ZzzzKnda3ZzzzKnda4",
   "Zzzz7Knda2Zzzz6Knda2ZzzzKnda4Zzzz2Knda10ZzzzKnda3Zzzz12Mlym13ZzzzMlym3ZzzzMlym51ZzzzMlym3Zzzz",
   "Mlym6Zzzz4Mlym16Zzzz2Mlym26ZzzzSinh3ZzzzSinh18Zzzz3Sinh24ZzzzSinh9ZzzzSinhZzzz2Sinh7Zzzz3Sinh",
   "Zzzz4Sinh6ZzzzSinhZzzzSinh8Zzzz6Sinh10Zzzz2Sinh3Zzzz12Thai58Zzzz4ZyyyThai28Zzzz37Laoo2Zzzz",
   "LaooZzzzLaoo5ZzzzLaoo24ZzzzLaooZzzzLaoo23Zzzz2Laoo5ZzzzLaooZzzzLaoo7ZzzzLaoo10Zzzz2Laoo4",
   "Zzzz32Tibt72ZzzzTibt36Zzzz4Tibt39ZzzzTibt36ZzzzTibt15ZzzzTibt7Zyyy4Tibt2Zzzz37Mymr160Geor38",
   "ZzzzGeorZzzz5GeorZzzz2Geor43ZyyyGeor4Hang256Ethi73ZzzzEthi4Zzzz2Ethi7ZzzzEthiZzzzEthi4Zzzz2",
   "Ethi41ZzzzEthi4Zzzz2Ethi33ZzzzEthi4Zzzz2Ethi7ZzzzEthiZzzzEthi4Zzzz2Ethi15ZzzzEthi57ZzzzEthi4",
   "Zzzz2Ethi67Zzzz2Ethi32Zzzz3Ethi26Zzzz6Cher86Zzzz2Cher6Zzzz2Cans640Ogam29Zzzz3Runr75Zyyy3",
   "Runr11Zzzz7Tglg22Zzzz9TglgHano21Zyyy2Zzzz9Buhd20Zzzz12Tagb13ZzzzTagb3ZzzzTagb2Zzzz12Khmr94",
   "Zzzz2Khmr10Zzzz6Khmr10Zzzz6Mong2Zyyy2MongZyyyMong20Zzzz6Mong89Zzzz7Mong43Zzzz5Cans70Zzzz10",
   "Limb31ZzzzLimb12Zzzz4Limb12Zzzz4LimbZzzz3Limb12Tale30Zzzz2Tale5Zzzz11Talu44Zzzz4Talu26Zzzz6",
   "Talu11Zzzz3Talu2Khmr32Bugi28Zzzz2Bugi2Lana63ZzzzLana29Zzzz2Lana11Zzzz6Lana10Zzzz6Lana14Zzzz2",
   "Zinh31Zzzz49Bali77ZzzzBali50Sund64Batk52Zzzz8Batk4Lepc56Zzzz3Lepc15Zzzz3Lepc3Olck48Cyrl11",
   "Zzzz5Geor43Zzzz2Geor3Sund8Zzzz8Zinh3ZyyyZinh13ZyyyZinh7Zyyy4ZinhZyyy6ZinhZyyy3Zinh2ZyyyZzzz5",
   "Latn38Grek5CyrlLatn49Grek5Latn4Grek5Latn13CyrlLatn70GrekZinh64Latn256Grek22Zzzz2Grek6Zzzz2",
   "Grek38Zzzz2Grek6Zzzz2Grek8ZzzzGrekZzzzGrekZzzzGrekZzzzGrek31Zzzz2Grek53ZzzzGrek15ZzzzGrek14",
   "Zzzz2Grek6ZzzzGrek19Zzzz2Grek3ZzzzGrek9ZzzzZyyy12Zinh2Zyyy87ZzzzZyyy11LatnZzzz2Zyyy11Latn",
   "Zyyy15ZzzzLatn13Zzzz3Zyyy33Zzzz15Zinh33Zzzz15Zyyy38GrekZyyy3Latn2Zyyy6LatnZyyy27LatnZyyy17",
   "Latn41Zyyy3Zzzz4Zyyy666Zzzz22Zyyy11Zzzz21Zyyy928Brai256Zyyy628Zzzz2Zyyy32ZzzzZyyy105Glag96",
   "Latn32Copt116Zzzz5Copt7Geor38ZzzzGeorZzzz5GeorZzzz2Tfng56Zzzz7Tfng2Zzzz14TfngEthi23Zzzz9Ethi7",
   "ZzzzEthi7ZzzzEthi7ZzzzEthi7ZzzzEthi7ZzzzEthi7ZzzzEthi7ZzzzEthi7ZzzzCyrl32Zyyy94Zzzz34Hani26",
   "ZzzzHani89Zzzz12Hani214Zzzz26Zyyy21HaniZyyyHaniZyyy25Hani9Zinh4Hang2Zyyy8Hani4Zyyy4ZzzzHira86",
   "Zzzz2Zinh2Zyyy2Hira3ZyyyKana90Zyyy2Kana3Zzzz5Bopo43ZzzzHang94ZzzzZyyy16Bopo32Zyyy38Zzzz9Zyyy",
   "Kana16Hang31ZzzzZyyy64Hang31Zyyy81Kana47ZyyyKana88Zyyy168Hani6592Zyyy64Hani20992Yiii1165Zzzz3",
   "Yiii55Zzzz9Lisu48Vaii300Zzzz20Cyrl96Bamu88Zzzz8Zyyy34Latn102Zyyy3Latn67Zzzz2Latn2ZzzzLatnZzzz",
   "Latn8Zzzz21Latn14Sylo45Zzzz3Zyyy10Zzzz6Phag56Zzzz8Saur70Zzzz8Saur12Zzzz6Deva32Kali46ZyyyKali",
   "Rjng36Zzzz11RjngHang29Zzzz3Java78ZzzzZyyyJava10Zzzz4Java2Mymr31ZzzzCham55Zzzz9Cham14Zzzz2",
   "Cham10Zzzz2Cham4Mymr32Tavt67Zzzz24Tavt5Mtei23Zzzz10Ethi6Zzzz2Ethi6Zzzz2Ethi6Zzzz9Ethi7Zzzz",
   "Ethi7ZzzzLatn43ZyyyLatn9GrekLatn4Zyyy2Zzzz4Cher80Mtei46Zzzz2Mtei10Zzzz6Hang11172Zzzz12Hang23",
   "Zzzz4Hang49Zzzz8452Hani366Zzzz2Hani106Zzzz38Latn7Zzzz12Armn5Zzzz5Hebr26ZzzzHebr5ZzzzHebrZzzz",
   "Hebr2ZzzzHebr2ZzzzHebr10Arab115Zzzz16Arab363Zyyy2Arab80Zzzz2Arab54Zzzz7ArabZzzz32Arab16Zinh16",
   "Zyyy10Zzzz6Zinh14Cyrl2Zyyy35ZzzzZyyy19ZzzzZyyy4Zzzz4Arab5ZzzzArab135Zzzz2ZyyyZzzzZyyy32Latn26",
   "Zyyy6Latn26Zyyy11Kana10ZyyyKana45Zyyy2Hang31Zzzz3Hang6Zzzz2Hang6Zzzz2Hang6Zzzz2Hang3Zzzz3",
   "Zyyy7ZzzzZyyy7Zzzz10Zyyy5Zzzz2Linb12ZzzzLinb26ZzzzLinb19ZzzzLinb2ZzzzLinb15Zzzz2Linb14Zzzz34",
   "Linb123Zzzz5Zyyy3Zzzz4Zyyy45Zzzz3Zyyy9Grek79ZzzzZyyy13Zzzz3GrekZzzz47Zyyy45ZinhZzzz130Lyci29",
   "Zzzz3Cari49Zzzz15ZinhZyyy27Zzzz4Ital36Zzzz9Ital3Goth27Zzzz5Perm43Zzzz5Ugar30ZzzzUgarXpeo36",
   "Zzzz4Xpeo14Zzzz42Dsrt80Shaw48Osma30Zzzz2Osma10Zzzz6Osge36Zzzz4Osge36Zzzz4Elba40Zzzz8Aghb52",
   "Zzzz11AghbVith11ZzzzVith15ZzzzVith7ZzzzVith2ZzzzVith11ZzzzVith15ZzzzVith7ZzzzVith2Zzzz3Todr52",
   "Zzzz12Lina311Zzzz9Lina22Zzzz10Lina8Zzzz24Latn6ZzzzLatn42ZzzzLatn9Zzzz69Cprt6Zzzz2CprtZzzz",
   "Cprt44ZzzzCprt2Zzzz3CprtZzzz2CprtArmi22ZzzzArmi9Palm32Nbat31Zzzz8Nbat9Zzzz48Hatr19ZzzzHatr2",
   "Zzzz5Hatr5Phnx28Zzzz3PhnxLydi26Zzzz5LydiZzzz64Mero32Merc24Zzzz4Merc20Zzzz2Merc46Khar4Zzzz",
   "Khar2Zzzz5Khar8ZzzzKhar3ZzzzKhar29Zzzz2Khar3Zzzz4Khar10Zzzz7Khar9Zzzz7Sarb32Narb32Zzzz32",
   "Mani39Zzzz4Mani12Zzzz9Avst54Zzzz3Avst7Prti22Zzzz2Prti8Phli19Zzzz5Phli8Phlp18Zzzz7Phlp4Zzzz12",
   "Phlp7Zzzz80Orkh73Zzzz55Hung51Zzzz13Hung51Zzzz7Hung6Rohg40Zzzz8Rohg10Zzzz6Gara38Zzzz3Gara29",
   "Zzzz8Gara2Zzzz208Arab31ZzzzYezi42ZzzzYezi3Zzzz2Yezi2Zzzz16Arab3Zzzz55Arab4Sogo40Zzzz8Sogd42",
   "Zzzz22Ougr26Zzzz38Chrs28Zzzz20Elym23Zzzz9Brah78Zzzz4Brah36Zzzz9BrahKthi67Zzzz10KthiZzzz2",
   "Sora25Zzzz7Sora10Zzzz6Cakm53ZzzzCakm18Zzzz8Mahj39Zzzz9Shrd96ZzzzSinh20Zzzz11Khoj18ZzzzKhoj47",
   "Zzzz62Mult7ZzzzMultZzzzMult4ZzzzMult15ZzzzMult11Zzzz6Sind59Zzzz5Sind10Zzzz6Gran4ZzzzGran8",
   "Zzzz2Gran2Zzzz2Gran22ZzzzGran7ZzzzGran2ZzzzGran5ZzzzZinhGran9Zzzz2Gran2Zzzz2Gran3Zzzz2Gran",
   "Zzzz6GranZzzz5Gran7Zzzz2Gran7Zzzz3Gran5Zzzz11Tutg10ZzzzTutgZzzz2TutgZzzzTutg38ZzzzTutg10Zzzz",
   "TutgZzzz2TutgZzzzTutg4ZzzzTutg10ZzzzTutg2Zzzz8Tutg2Zzzz29Newa92ZzzzNewa5Zzzz30Tirh72Zzzz8",
   "Tirh10Zzzz166Sidd54Zzzz2Sidd38Zzzz34Modi69Zzzz11Modi10Zzzz6Mong13Zzzz19Takr58Zzzz6Takr10Zzzz6",
   "Mymr20Zzzz28Ahom27Zzzz2Ahom15Zzzz4Ahom23Zzzz185Dogr60Zzzz100Wara83Zzzz12WaraDiak7Zzzz2Diak",
   "Zzzz2Diak8ZzzzDiak2ZzzzDiak30ZzzzDiak2Zzzz2Diak12Zzzz9Diak10Zzzz70Nand8Zzzz2Nand46Zzzz2Nand11",
   "Zzzz27Zanb72Zzzz8Soyo83Zzzz13Cans16Pauc57Zzzz7Deva10Zzzz182Sunu34Zzzz14Sunu10Zzzz6Bhks9Zzzz",
   "Bhks45ZzzzBhks14Zzzz10Bhks29Zzzz3Marc32Zzzz2Marc22ZzzzMarc14Zzzz73Gonm7ZzzzGonm2ZzzzGonm44",
   "Zzzz3GonmZzzzGonm2ZzzzGonm9Zzzz8Gonm10Zzzz6Gong6ZzzzGong2ZzzzGong37ZzzzGong2ZzzzGong6Zzzz7",
   "Gong10Zzzz310Maka25Zzzz7Kawi17ZzzzKawi41Zzzz3Kawi29Zzzz85LisuZzzz15Taml50Zzzz13TamlXsux922",
   "Zzzz102Xsux111ZzzzXsux5Zzzz11Xsux196Zzzz2636Cpmn99Zzzz13Egyp1110Zzzz10Egyp3995Zzzz5Hluw583",
   "Zzzz6841Gukh58Zzzz1734Bamu569Zzzz7Mroo31ZzzzMroo10Zzzz4Mroo2Tnsa79ZzzzTnsa10Zzzz6Bass30Zzzz2",
   "Bass6Zzzz10Hmng70Zzzz10Hmng10ZzzzHmng7ZzzzHmng21Zzzz5Hmng19Zzzz432Krai58Zzzz198Medf91Zzzz101",
   "Plrd75Zzzz4Plrd57Zzzz7Plrd17Zzzz64TangNshuHani2KitsZzzz11Hani2Zzzz14Tang6136Zzzz8Tang768",
   "Kits470Zzzz41KitsTang9Zzzz8935Kana4ZzzzKana7ZzzzKana2ZzzzKanaHira287Kana3Zzzz15HiraZzzz29",
   "Hira3Zzzz2KanaZzzz14Kana4Zzzz8Nshu396Zzzz2308Dupl107Zzzz5Dupl13Zzzz3Dupl9Zzzz7Dupl10Zzzz2",
   "Dupl4Zyyy4Zzzz3932Zyyy250Zzzz6Zyyy436Zzzz76Zinh46Zzzz2Zinh23Zzzz9Zyyy116Zzzz60Zyyy246Zzzz10",
   "Zyyy39Zzzz2Zyyy62Zinh3Zyyy17Zinh8Zyyy2Zinh7Zyyy30Zinh4Zyyy61Zzzz21Grek70Zzzz122Zyyy20Zzzz12",
   "Zyyy20Zzzz12Zyyy87Zzzz9Zyyy25Zzzz135Zyyy85ZzzzZyyy71ZzzzZyyy2Zzzz2ZyyyZzzz2Zyyy2Zzzz2Zyyy4",
   "ZzzzZyyy12ZzzzZyyyZzzzZyyy7ZzzzZyyy65ZzzzZyyy4Zzzz2Zyyy8ZzzzZyyy7ZzzzZyyy28ZzzzZyyy4ZzzzZyyy5",
   "ZzzzZyyyZzzz3Zyyy7ZzzzZyyy340Zzzz2Zyyy292Zzzz2Zyyy50Sgnw652Zzzz15Sgnw5ZzzzSgnw15Zzzz1104",
   "Latn31Zzzz6Latn6Zzzz213Glag7ZzzzGlag17Zzzz2Glag7ZzzzGlag2ZzzzGlag5Zzzz5Cyrl62Zzzz33Cyrl",
   "Zzzz112Hmnp45Zzzz3Hmnp14Zzzz2Hmnp10Zzzz4Hmnp2Zzzz320Toto31Zzzz17Wcho58Zzzz5WchoZzzz464Nagm42",
   "Zzzz214Onao43Zzzz4OnaoZzzz480Ethi7ZzzzEthi4ZzzzEthi2ZzzzEthi15ZzzzMend197Zzzz2Mend16Zzzz41",
   "Adlm76Zzzz4Adlm10Zzzz4Adlm2Zzzz785Zyyy68Zzzz76Zyyy61Zzzz194Arab4ZzzzArab27ZzzzArab2ZzzzArab",
   "Zzzz2ArabZzzzArab10ZzzzArab4ZzzzArabZzzzArabZzzz6ArabZzzz4ArabZzzzArabZzzzArabZzzzArab3Zzzz",
   "Arab2ZzzzArabZzzz2ArabZzzzArabZzzzArabZzzzArabZzzzArabZzzzArab2ZzzzArabZzzz2Arab4ZzzzArab7",
   "ZzzzArab4ZzzzArab4ZzzzArabZzzzArab10ZzzzArab17Zzzz5Arab3ZzzzArab5ZzzzArab17Zzzz52Arab2Zzzz270",
   "Zyyy44Zzzz4Zyyy100Zzzz12Zyyy15Zzzz2Zyyy15ZzzzZyyy15ZzzzZyyy37Zzzz10Zyyy174Zzzz56Zyyy26Hira",
   "Zyyy2Zzzz13Zyyy44Zzzz4Zyyy9Zzzz7Zyyy2Zzzz14Zyyy6Zzzz154Zyyy984Zzzz4Zyyy17Zzzz3Zyyy13Zzzz3",
   "Zyyy119Zzzz4Zyyy95Zzzz6Zyyy12Zzzz4ZyyyZzzz15Zyyy12Zzzz4Zyyy56Zzzz8Zyyy10Zzzz6Zyyy40Zzzz8",
   "Zyyy30Zzzz2Zyyy12Zzzz4Zyyy2Zzzz62Zyyy340Zzzz12Zyyy14Zzzz2Zyyy13Zzzz3Zyyy10Zzzz5Zyyy56Zzzz7",
   "Zyyy15Zzzz2Zyyy11Zzzz6Zyyy9Zzzz7Zyyy147ZzzzZyyy102Zzzz1030Hani42720Zzzz32Hani4154Zzzz6Hani222",
   "Zzzz2Hani5762Zzzz14Hani7473Zzzz15Hani622Zzzz2466Hani542Zzzz1506Hani4939Zzzz5Hani4192",
   "Zzzz711761ZyyyZzzz30Zyyy96Zzzz128Zinh240Zzzz196112"]

def scriptNames : List (String × String) :=
  [("adlm adlam", "Adlm"), ("aghb caucasianalbanian", "Aghb"), ("ahom", "Ahom"),
   ("arab arabic", "Arab"), ("armi imperialaramaic", "Armi"), ("armn armenian", "Armn"),
   ("avst avestan", "Avst"), ("bali balinese", "Bali"), ("bamu bamum", "Bamu"),
   ("bass bassavah", "Bass"), ("batk batak", "Batk"), ("beng bengali", "Beng"),
   ("bhks bhaiksuki", "Bhks"), ("bopo bopomofo", "Bopo"), ("brah brahmi", "Brah"),
   ("brai braille", "Brai"), ("bugi buginese", "Bugi"), ("buhd buhid", "Buhd"),
   ("cakm chakma", "Cakm"), ("cans canadianaboriginal", "Cans"), ("cari carian", "Cari"),
   ("cham", "Cham"), ("cher cherokee", "Cher"), ("chrs chorasmian", "Chrs"),
   ("copt coptic qaac", "Copt"), ("cpmn cyprominoan", "Cpmn"), ("cprt cypriot", "Cprt"),
   ("cyrl cyrillic", "Cyrl"), ("deva devanagari", "Deva"), ("diak divesakuru", "Diak"),
   ("dogr dogra", "Dogr"), ("dsrt deseret", "Dsrt"), ("dupl duployan", "Dupl"),
   ("egyp egyptianhieroglyphs", "Egyp"), ("elba elbasan", "Elba"), ("elym elymaic", "Elym"),
   ("ethi ethiopic", "Ethi"), ("gara garay", "Gara"), ("geor georgian", "Geor"),
   ("glag glagolitic", "Glag"), ("gong gunjalagondi", "Gong"), ("gonm masaramgondi", "Gonm"),
   ("goth gothic", "Goth"), ("gran grantha", "Gran"), ("grek greek", "Grek"),
   ("gujr gujarati", "Gujr"), ("gukh gurungkhema", "Gukh"), ("guru gurmukhi", "Guru"),
   ("hang hangul", "Hang"), ("hani han", "Hani"), ("hano hanunoo", "Hano"), ("hatr hatran", "Hatr"),
   ("hebr hebrew", "Hebr"), ("hira hiragana", "Hira"), ("hluw anatolianhieroglyphs", "Hluw"),
   ("hmng pahawhhmong", "Hmng"), ("hmnp nyiakengpuachuehmong", "Hmnp"),
   ("hung oldhungarian", "Hung"), ("ital olditalic", "Ital"), ("java javanese", "Java"),
   ("kali kayahli", "Kali"), ("kana katakana", "Kana"), ("kawi", "Kawi"),
   ("khar kharoshthi", "Khar"), ("khmr khmer", "Khmr"), ("khoj khojki", "Khoj"),
   ("kits khitansmallscript", "Kits"), ("knda kannada", "Knda"), ("krai kiratrai", "Krai"),
   ("kthi kaithi", "Kthi"), ("lana taitham", "Lana"), ("laoo lao", "Laoo"), ("latn latin", "Latn"),
   ("lepc lepcha", "Lepc"), ("limb limbu", "Limb"), ("lina lineara", "Lina"),
   ("linb linearb", "Linb"), ("lisu", "Lisu"), ("lyci lycian", "Lyci"), ("lydi lydian", "Lydi"),
   ("mahj mahajani", "Mahj"), ("maka makasar", "Maka"), ("mand mandaic", "Mand"),
   ("mani manichaean", "Mani"), ("marc marchen", "Marc"), ("medf medefaidrin", "Medf"),
   ("mend mendekikakui", "Mend"), ("merc meroiticcursive", "Merc"),
   ("mero meroitichieroglyphs", "Mero"), ("mlym malayalam", "Mlym"), ("modi", "Modi"),
   ("mong mongolian", "Mong"), ("mroo mro", "Mroo"), ("mtei meeteimayek", "Mtei"),
   ("mult multani", "Mult"), ("mymr myanmar", "Mymr"), ("nagm nagmundari", "Nagm"),
   ("nand nandinagari", "Nand"), ("narb oldnortharabian", "Narb"), ("nbat nabataean", "Nbat"),
   ("newa", "Newa"), ("nkoo nko", "Nkoo"), ("nshu nushu", "Nshu"), ("ogam ogham", "Ogam"),
   ("olck olchiki", "Olck"), ("onao olonal", "Onao"), ("orkh oldturkic", "Orkh"),
   ("orya oriya", "Orya"), ("osge osage", "Osge"), ("osma osmanya", "Osma"),
   ("ougr olduyghur", "Ougr"), ("palm palmyrene", "Palm"), ("pauc paucinhau", "Pauc"),
   ("perm oldpermic", "Perm"), ("phag phagspa", "Phag"), ("phli inscriptionalpahlavi", "Phli"),
   ("phlp psalterpahlavi", "Phlp"), ("phnx phoenician", "Phnx"), ("plrd miao", "Plrd"),
   ("prti inscriptionalparthian", "Prti"), ("rjng rejang", "Rjng"), ("rohg hanifirohingya", "Rohg"),
   ("runr runic", "Runr"), ("samr samaritan", "Samr"), ("sarb oldsoutharabian", "Sarb"),
   ("saur saurashtra", "Saur"), ("sgnw signwriting", "Sgnw"), ("shaw shavian", "Shaw"),
   ("shrd sharada", "Shrd"), ("sidd siddham", "Sidd"), ("sind khudawadi", "Sind"),
   ("sinh sinhala", "Sinh"), ("sogd sogdian", "Sogd"), ("sogo oldsogdian", "Sogo"),
   ("sora sorasompeng", "Sora"), ("soyo soyombo", "Soyo"), ("sund sundanese", "Sund"),
   ("sunu sunuwar", "Sunu"), ("sylo sylotinagri", "Sylo"), ("syrc syriac", "Syrc"),
   ("tagb tagbanwa", "Tagb"), ("takr takri", "Takr"), ("tale taile", "Tale"),
   ("talu newtailue", "Talu"), ("taml tamil", "Taml"), ("tang tangut", "Tang"),
   ("tavt taiviet", "Tavt"), ("telu telugu", "Telu"), ("tfng tifinagh", "Tfng"),
   ("tglg tagalog", "Tglg"), ("thaa thaana", "Thaa"), ("thai", "Thai"), ("tibt tibetan", "Tibt"),
   ("tirh tirhuta", "Tirh"), ("tnsa tangsa", "Tnsa"), ("todr todhri", "Todr"), ("toto", "Toto"),
   ("tutg tulutigalari", "Tutg"), ("ugar ugaritic", "Ugar"), ("vaii vai", "Vaii"),
   ("vith vithkuqi", "Vith"), ("wara warangciti", "Wara"), ("wcho wancho", "Wcho"),
   ("xpeo oldpersian", "Xpeo"), ("xsux cuneiform", "Xsux"), ("yezi yezidi", "Yezi"),
   ("yiii yi", "Yiii"), ("zanb zanabazarsquare", "Zanb"), ("zinh inherited qaai", "Zinh"),
   ("zyyy common", "Zyyy")]

/-- The characters whose scripts are others than just their own, and these scripts. -/
def scriptExtensions : List (String × String) :=
  [("b7", "AvstCariCoptDuplElbaGeorGlagGongGothGrekHaniLatnLydiMahjPermShaw"),
   ("2bc", "BengCyrlDevaLatnLisuThaiToto"), ("2c7 2c9-2cb 2d9", "BopoLatn"), ("2cd", "LatnLisu"),
   ("2d7", "LatnThai"), ("300", "CherCoptCyrlGrekLatnPermSunuTale"),
   ("301", "CherCyrlGrekLatnOsgeSunuTaleTodr"), ("302", "CherCyrlLatnTfng"),
   ("303", "GlagLatnSunuSyrcThai"), ("304", "AghbCherCoptCyrlGothGrekLatnOsgeSyrcTfngTodr"),
   ("305", "CoptElbaGlagGothKanaLatn"), ("306", "CyrlGrekLatnPermTfng"),
   ("307", "CoptDuplHebrLatnPermSyrcTaleTfngTodr"),
   ("308", "ArmnCyrlDuplGothGrekHebrLatnPermSyrcTaleTfng"), ("309", "LatnTfng"),
   ("30a", "DuplLatnSyrc"), ("30b", "CherCyrlLatnOsge"), ("30c", "CherLatnTale"),
   ("30d 310", "LatnSunu"), ("30e", "EthiLatn"), ("311", "CyrlLatnTodr"),
   ("313", "GrekLatnPermTodr"), ("323", "CherDuplKanaLatnSyrcTfng"), ("324", "CherDuplLatnSyrc"),
   ("325 32e", "LatnSyrc"), ("32d", "LatnSunuSyrc"), ("330", "CherLatnSyrc"),
   ("331", "AghbCherGothLatnSunuSyrcThai"), ("342 345 1dc0-1dc1", "Grek"), ("358", "LatnOsge"),
   ("35e", "AghbLatnTodr"), ("363-36f", "Latn"), ("374-375", "CoptGrek"), ("483", "CyrlPerm"),
   ("484 487 2e43 a66f", "CyrlGlag"), ("485-486", "CyrlLatn"), ("589", "ArmnGeorGlag"),
   ("60c 61b", "ArabGaraNkooRohgSyrcThaaYezi"), ("61c", "ArabSyrcThaa"),
   ("61f", "AdlmArabGaraNkooRohgSyrcThaaYezi"), ("640", "AdlmArabMandManiOugrPhlpRohgSogdSyrc"),
   ("64b-655 670", "ArabSyrc"), ("660-669", "ArabThaaYezi"), ("6d4", "ArabRohg"),
   ("951", "BengDevaGranGujrGuruKndaLatnMlymNandNewaOryaShrdTamlTeluTirh"),
   ("952", "BengDevaGranGujrGuruKndaLatnMlymNewaOryaTamlTeluTirh"),
   ("964", "BengDevaDogrGongGonmGranGujrGuruKndaMahjMlymNandOnaoOryaSindSinhSyloTakrTamlTeluTirh"),
   ("965",
    "BengDevaDogrGongGonmGranGujrGukhGuruKndaLimbMahjMlymNandOnaoOryaSindSinhSyloTakrTamlTeluTirh"),
   ("966-96f", "DevaDogrKthiMahj"), ("9e6-9ef", "BengCakmSylo"), ("a66-a6f", "GuruMult"),
   ("ae6-aef", "GujrKhoj"), ("be6-bf3 11301 11303 1133b-1133c 11fd0-11fd1 11fd3", "GranTaml"),
   ("ce6-cef", "KndaNandTutg"), ("1040-1049", "CakmMymrTale"), ("10fb", "GeorGlagLatn"),
   ("16eb-16ed", "Runr"), ("1735-1736", "BuhdHanoTagbTglg"), ("1802-1803 1805", "MongPhag"),
   ("1cd0 1cd2", "BengDevaGranKnda"), ("1cd1 1cd4 1cdb 1cde-1cdf 1ce3-1ce8 1cec 1cee-1cf1", "Deva"),
   ("1cd3", "DevaGranKnda"), ("1cd5", "BengDevaNewaTeluTirh"), ("1cd6", "BengDevaTelu"),
   ("1cd7", "DevaNewaShrd"), ("1cd8", "BengDevaNewaTelu"), ("1cd9 1cdc-1cdd 1ce0", "DevaShrd"),
   ("1cda", "DevaKndaMlymOryaTamlTelu"), ("1ce1 1cf5-1cf6", "BengDeva"), ("1ce2", "DevaNewaTirh"),
   ("1ce9", "DevaNandNewa"), ("1cea", "BengDevaShrd"), ("1ceb", "DevaNewa"),
   ("1ced", "BengDevaNewaShrd"), ("1cf2", "BengDevaGranKndaMlymNandOryaSinhTeluTirhTutg"),
   ("1cf3 1cf8-1cf9", "DevaGran"), ("1cf4", "DevaGranKndaTutg"), ("1cf7", "Beng"), ("1cfa", "Nand"),
   ("1df8", "CyrlLatnSyrc"), ("1dfa", "Syrc"), ("202f", "LatnMongPhag"), ("204f", "AdlmArab"),
   ("205a", "CariGeorGlagHungLyciOrkh"), ("205d", "CariGrekHungMero"), ("20f0", "DevaGranLatn"),
   ("2e17", "CoptLatn"), ("2e30", "AvstOrkh"), ("2e31", "AvstCariGeorHungKthiLydiSamr"),
   ("2e3c 1bca0-1bca3", "Dupl"), ("2e41", "AdlmArabHung"), ("2ff0-2fff 31ef", "HaniTang"),
   ("3001", "BopoHangHaniHiraKanaMongYiii"), ("3002", "BopoHangHaniHiraKanaMongPhagYiii"),
   ("3003 3013 301c-301f 3030 3037 fe45-fe46", "BopoHangHaniHiraKana"),
   ("3006 303e-303f 3190-319f 31c0-31e5 3220-3247 3280-32b0", "Hani"),
   ("32c0-32cb 32ff 3358-3370 337b-337f 33e0-33fe 1d360-1d371", "Hani"), ("1f250-1f251", "Hani"),
   ("3008-3009", "BopoHangHaniHiraKanaMongTibtYiii"),
   ("300a-300b", "BopoHangHaniHiraKanaLisuMongTibtYiii"),
   ("300c-3011 3014-301b 30fb ff61-ff65", "BopoHangHaniHiraKanaYiii"), ("302a-302d", "BopoHani"),
   ("3031-3035 3099-309c 30a0 30fc ff70 ff9e-ff9f", "HiraKana"), ("303c-303d", "HaniHiraKana"),
   ("a700-a707", "HaniLatn"),
   ("a830-a832", "DevaDogrGujrGuruKhojKndaKthiMahjMlymModiNandShrdSindTakrTirhTutg"),
   ("a833-a835", "DevaDogrGujrGuruKhojKndaKthiMahjModiNandShrdSindTakrTirhTutg"),
   ("a836-a837 a839", "DevaDogrGujrGuruKhojKthiMahjModiSindTakrTirh"),
   ("a838", "DevaDogrGujrGuruKhojKthiMahjModiShrdSindTakrTirh"), ("a8f1", "BengDevaTutg"),
   ("a8f3", "DevaTaml"), ("a92e", "KaliLatnMymr"), ("a9cf", "BugiJava"), ("fd3e-fd3f", "ArabNkoo"),
   ("fdf2 fdfd", "ArabThaa"), ("10100-10101", "CpmnCprtLinb"), ("10102 10137-1013f", "CprtLinb"),
   ("10107-10133", "CprtLinaLinb"), ("102e0-102fb", "ArabCopt"), ("10af2", "ManiOugr")]

def script? (name : Text) : Option CharSet :=
  (named? name scriptNames).map fun value => having scriptTable [value.toList]

def scriptExtension? (name : Text) : Option CharSet :=
  (named? name scriptNames).map fun value =>
    let used := scriptExtensions.filter fun e => (cells e.2.toList).contains value.toList
    ((having scriptTable [value.toList]).diff (listed (scriptExtensions.map (·.1)))).union
      (listed (used.map (·.1)))

end Unicode

end Regex

end PathRouting
