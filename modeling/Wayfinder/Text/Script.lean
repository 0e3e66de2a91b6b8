/-
Scripts.

The Unicode script of a character. `scriptRuns` lists the maximal runs of code points of one script
from code point zero on: the four letters of the script, then the length of the run if it is longer
than one. `scriptNames` holds the names under which a script can be asked for.
-/

namespace Wayfinder.Text

/-- The runs of equal script, in code point order. -/
def scriptRuns : String := String.join
  ["Zyyy65Latn26Zyyy6Latn26Zyyy47LatnZyyy15LatnZyyy5Latn23ZyyyLatn31ZyyyLatn449Zyyy39Latn5Zyyy5",
   "Bopo2Zyyy20Zinh112Grek4ZyyyGrek3Zzzz2Grek4ZyyyGrekZzzz4GrekZyyyGrekZyyyGrek3ZzzzGrekZzzz",
   "Grek20ZzzzGrek63Copt14Grek16Cyrl133Zinh2Cyrl169ZzzzArmn38Zzzz2Armn50Zzzz2Armn3ZzzzHebr55",
   "Zzzz8Hebr27Zzzz4Hebr6Zzzz11Arab5ZyyyArab6ZyyyArab14ZyyyArab3ZyyyArab32ZyyyArab10Zinh11Arab26",
   "ZinhArab108ZyyyArab34Syrc14ZzzzSyrc60Zzzz2Syrc3Arab48Thaa50Zzzz14Nkoo59Zzzz2Nkoo3Samr46Zzzz2",
   "Samr15ZzzzMand28Zzzz2MandZzzzSyrc11Zzzz5Arab31ZzzzArab2Zzzz6Arab74ZyyyArab29Deva81Zinh4",
   "Deva15Zyyy2Deva26Beng4ZzzzBeng8Zzzz2Beng2Zzzz2Beng22ZzzzBeng7ZzzzBengZzzz3Beng4Zzzz2Beng9",
   "Zzzz2Beng2Zzzz2Beng4Zzzz8BengZzzz4Beng2ZzzzBeng5Zzzz2Beng25Zzzz2Guru3ZzzzGuru6Zzzz4Guru2",
   "Zzzz2Guru22ZzzzGuru7ZzzzGuru2ZzzzGuru2ZzzzGuru2Zzzz2GuruZzzzGuru5Zzzz4Guru2Zzzz2Guru3Zzzz3",
   "GuruZzzz7Guru4ZzzzGuruZzzz7Guru17Zzzz10Gujr3ZzzzGujr9ZzzzGujr3ZzzzGujr22ZzzzGujr7ZzzzGujr2",
   "ZzzzGujr5Zzzz2Gujr10ZzzzGujr3ZzzzGujr3Zzzz2GujrZzzz15Gujr4Zzzz2Gujr12Zzzz7Gujr7ZzzzOrya3Zzzz",
   "Orya8Zzzz2Orya2Zzzz2Orya22ZzzzOrya7ZzzzOrya2ZzzzOrya5Zzzz2Orya9Zzzz2Orya2Zzzz2Orya3Zzzz7",
   "Orya3Zzzz4Orya2ZzzzOrya5Zzzz2Orya18Zzzz10Taml2ZzzzTaml6Zzzz3Taml3ZzzzTaml4Zzzz3Taml2ZzzzTaml",
   "ZzzzTaml2Zzzz3Taml2Zzzz3Taml3Zzzz3Taml12Zzzz4Taml5Zzzz3Taml3ZzzzTaml4Zzzz2TamlZzzz6Taml",
   "Zzzz14Taml21Zzzz5Telu13ZzzzTelu3ZzzzTelu23ZzzzTelu16Zzzz2Telu9ZzzzTelu3ZzzzTelu4Zzzz7Telu2",
   "ZzzzTelu3Zzzz2TeluZzzz2Telu4Zzzz2Telu10Zzzz7Telu9Knda13ZzzzKnda3ZzzzKnda23ZzzzKnda10Zzzz",
   "Knda5Zzzz2Knda9ZzzzKnda3ZzzzKnda4Zzzz7Knda2Zzzz6Knda2ZzzzKnda4Zzzz2Knda10ZzzzKnda3Zzzz12",
   "Mlym13ZzzzMlym3ZzzzMlym51ZzzzMlym3ZzzzMlym6Zzzz4Mlym16Zzzz2Mlym26ZzzzSinh3ZzzzSinh18Zzzz3",
   "Sinh24ZzzzSinh9ZzzzSinhZzzz2Sinh7Zzzz3SinhZzzz4Sinh6ZzzzSinhZzzzSinh8Zzzz6Sinh10Zzzz2Sinh3",
   "Zzzz12Thai58Zzzz4ZyyyThai28Zzzz37Laoo2ZzzzLaooZzzzLaoo5ZzzzLaoo24ZzzzLaooZzzzLaoo23Zzzz2",
   "Laoo5ZzzzLaooZzzzLaoo7ZzzzLaoo10Zzzz2Laoo4Zzzz32Tibt72ZzzzTibt36Zzzz4Tibt39ZzzzTibt36Zzzz",
   "Tibt15ZzzzTibt7Zyyy4Tibt2Zzzz37Mymr160Geor38ZzzzGeorZzzz5GeorZzzz2Geor43ZyyyGeor4Hang256",
   "Ethi73ZzzzEthi4Zzzz2Ethi7ZzzzEthiZzzzEthi4Zzzz2Ethi41ZzzzEthi4Zzzz2Ethi33ZzzzEthi4Zzzz2Ethi7",
   "ZzzzEthiZzzzEthi4Zzzz2Ethi15ZzzzEthi57ZzzzEthi4Zzzz2Ethi67Zzzz2Ethi32Zzzz3Ethi26Zzzz6Cher86",
   "Zzzz2Cher6Zzzz2Cans640Ogam29Zzzz3Runr75Zyyy3Runr11Zzzz7Tglg22Zzzz9TglgHano21Zyyy2Zzzz9Buhd20",
   "Zzzz12Tagb13ZzzzTagb3ZzzzTagb2Zzzz12Khmr94Zzzz2Khmr10Zzzz6Khmr10Zzzz6Mong2Zyyy2MongZyyy",
   "Mong20Zzzz6Mong89Zzzz7Mong43Zzzz5Cans70Zzzz10Limb31ZzzzLimb12Zzzz4Limb12Zzzz4LimbZzzz3Limb12",
   "Tale30Zzzz2Tale5Zzzz11Talu44Zzzz4Talu26Zzzz6Talu11Zzzz3Talu2Khmr32Bugi28Zzzz2Bugi2Lana63Zzzz",
   "Lana29Zzzz2Lana11Zzzz6Lana10Zzzz6Lana14Zzzz2Zinh31Zzzz49Bali77Zzzz3Bali47ZzzzSund64Batk52",
   "Zzzz8Batk4Lepc56Zzzz3Lepc15Zzzz3Lepc3Olck48Cyrl9Zzzz7Geor43Zzzz2Geor3Sund8Zzzz8Zinh3Zyyy",
   "Zinh13ZyyyZinh7Zyyy4ZinhZyyy6ZinhZyyy3Zinh2ZyyyZzzz5Latn38Grek5CyrlLatn49Grek5Latn4Grek5",
   "Latn13CyrlLatn70GrekZinh64Latn256Grek22Zzzz2Grek6Zzzz2Grek38Zzzz2Grek6Zzzz2Grek8ZzzzGrekZzzz",
   "GrekZzzzGrekZzzzGrek31Zzzz2Grek53ZzzzGrek15ZzzzGrek14Zzzz2Grek6ZzzzGrek19Zzzz2Grek3ZzzzGrek9",
   "ZzzzZyyy12Zinh2Zyyy87ZzzzZyyy11LatnZzzz2Zyyy11LatnZyyy15ZzzzLatn13Zzzz3Zyyy33Zzzz15Zinh33",
   "Zzzz15Zyyy38GrekZyyy3Latn2Zyyy6LatnZyyy27LatnZyyy17Latn41Zyyy3Zzzz4Zyyy663Zzzz25Zyyy11Zzzz21",
   "Zyyy928Brai256Zyyy628Zzzz2Zyyy32ZzzzZyyy105Glag96Latn32Copt116Zzzz5Copt7Geor38ZzzzGeorZzzz5",
   "GeorZzzz2Tfng56Zzzz7Tfng2Zzzz14TfngEthi23Zzzz9Ethi7ZzzzEthi7ZzzzEthi7ZzzzEthi7ZzzzEthi7Zzzz",
   "Ethi7ZzzzEthi7ZzzzEthi7ZzzzCyrl32Zyyy94Zzzz34Hani26ZzzzHani89Zzzz12Hani214Zzzz26Zyyy12Zzzz4",
   "Zyyy5HaniZyyyHaniZyyy25Hani9Zinh4Hang2Zyyy8Hani4Zyyy4ZzzzHira86Zzzz2Zinh2Zyyy2Hira3Zyyy",
   "Kana90Zyyy2Kana3Zzzz5Bopo43ZzzzHang94ZzzzZyyy16Bopo32Zyyy36Zzzz12Kana16Hang31ZzzzZyyy64",
   "Hang31Zyyy81Kana47ZyyyKana88Zyyy168Hani6592Zyyy64Hani20992Yiii1165Zzzz3Yiii55Zzzz9Lisu48",
   "Vaii300Zzzz20Cyrl96Bamu88Zzzz8Zyyy34Latn102Zyyy3Latn64Zzzz5Latn2ZzzzLatnZzzzLatn5Zzzz24",
   "Latn14Sylo45Zzzz3Zyyy10Zzzz6Phag56Zzzz8Saur70Zzzz8Saur12Zzzz6Deva32Kali46ZyyyKaliRjng36",
   "Zzzz11RjngHang29Zzzz3Java78ZzzzZyyyJava10Zzzz4Java2Mymr31ZzzzCham55Zzzz9Cham14Zzzz2Cham10",
   "Zzzz2Cham4Mymr32Tavt67Zzzz24Tavt5Mtei23Zzzz10Ethi6Zzzz2Ethi6Zzzz2Ethi6Zzzz9Ethi7ZzzzEthi7",
   "ZzzzLatn43ZyyyLatn9GrekLatn4Zyyy2Zzzz4Cher80Mtei46Zzzz2Mtei10Zzzz6Hang11172Zzzz12Hang23Zzzz4",
   "Hang49Zzzz8452Hani366Zzzz2Hani106Zzzz38Latn7Zzzz12Armn5Zzzz5Hebr26ZzzzHebr5ZzzzHebrZzzzHebr2",
   "ZzzzHebr2ZzzzHebr10Arab115Zzzz16Arab363Zyyy2Arab80Zzzz2Arab54Zzzz7ArabZzzz32Arab16Zinh16",
   "Zyyy10Zzzz6Zinh14Cyrl2Zyyy35ZzzzZyyy19ZzzzZyyy4Zzzz4Arab5ZzzzArab135Zzzz2ZyyyZzzzZyyy32",
   "Latn26Zyyy6Latn26Zyyy11Kana10ZyyyKana45Zyyy2Hang31Zzzz3Hang6Zzzz2Hang6Zzzz2Hang6Zzzz2Hang3",
   "Zzzz3Zyyy7ZzzzZyyy7Zzzz10Zyyy5Zzzz2Linb12ZzzzLinb26ZzzzLinb19ZzzzLinb2ZzzzLinb15Zzzz2Linb14",
   "Zzzz34Linb123Zzzz5Zyyy3Zzzz4Zyyy45Zzzz3Zyyy9Grek79ZzzzZyyy13Zzzz3GrekZzzz47Zyyy45ZinhZzzz130",
   "Lyci29Zzzz3Cari49Zzzz15ZinhZyyy27Zzzz4Ital36Zzzz9Ital3Goth27Zzzz5Perm43Zzzz5Ugar30ZzzzUgar",
   "Xpeo36Zzzz4Xpeo14Zzzz42Dsrt80Shaw48Osma30Zzzz2Osma10Zzzz6Osge36Zzzz4Osge36Zzzz4Elba40Zzzz8",
   "Aghb52Zzzz11AghbVith11ZzzzVith15ZzzzVith7ZzzzVith2ZzzzVith11ZzzzVith15ZzzzVith7ZzzzVith2",
   "Zzzz67Lina311Zzzz9Lina22Zzzz10Lina8Zzzz24Latn6ZzzzLatn42ZzzzLatn9Zzzz69Cprt6Zzzz2CprtZzzz",
   "Cprt44ZzzzCprt2Zzzz3CprtZzzz2CprtArmi22ZzzzArmi9Palm32Nbat31Zzzz8Nbat9Zzzz48Hatr19ZzzzHatr2",
   "Zzzz5Hatr5Phnx28Zzzz3PhnxLydi26Zzzz5LydiZzzz64Mero32Merc24Zzzz4Merc20Zzzz2Merc46Khar4Zzzz",
   "Khar2Zzzz5Khar8ZzzzKhar3ZzzzKhar29Zzzz2Khar3Zzzz4Khar10Zzzz7Khar9Zzzz7Sarb32Narb32Zzzz32",
   "Mani39Zzzz4Mani12Zzzz9Avst54Zzzz3Avst7Prti22Zzzz2Prti8Phli19Zzzz5Phli8Phlp18Zzzz7Phlp4Zzzz12",
   "Phlp7Zzzz80Orkh73Zzzz55Hung51Zzzz13Hung51Zzzz7Hung6Rohg40Zzzz8Rohg10Zzzz294Arab31ZzzzYezi42",
   "ZzzzYezi3Zzzz2Yezi2Zzzz75Arab3Sogo40Zzzz8Sogd42Zzzz22Ougr26Zzzz38Chrs28Zzzz20Elym23Zzzz9",
   "Brah78Zzzz4Brah36Zzzz9BrahKthi67Zzzz10KthiZzzz2Sora25Zzzz7Sora10Zzzz6Cakm53ZzzzCakm18Zzzz8",
   "Mahj39Zzzz9Shrd96ZzzzSinh20Zzzz11Khoj18ZzzzKhoj47Zzzz62Mult7ZzzzMultZzzzMult4ZzzzMult15Zzzz",
   "Mult11Zzzz6Sind59Zzzz5Sind10Zzzz6Gran4ZzzzGran8Zzzz2Gran2Zzzz2Gran22ZzzzGran7ZzzzGran2Zzzz",
   "Gran5ZzzzZinhGran9Zzzz2Gran2Zzzz2Gran3Zzzz2GranZzzz6GranZzzz5Gran7Zzzz2Gran7Zzzz3Gran5",
   "Zzzz139Newa92ZzzzNewa5Zzzz30Tirh72Zzzz8Tirh10Zzzz166Sidd54Zzzz2Sidd38Zzzz34Modi69Zzzz11",
   "Modi10Zzzz6Mong13Zzzz19Takr58Zzzz6Takr10Zzzz54Ahom27Zzzz2Ahom15Zzzz4Ahom23Zzzz185Dogr60",
   "Zzzz100Wara83Zzzz12WaraDiak7Zzzz2DiakZzzz2Diak8ZzzzDiak2ZzzzDiak30ZzzzDiak2Zzzz2Diak12Zzzz9",
   "Diak10Zzzz70Nand8Zzzz2Nand46Zzzz2Nand11Zzzz27Zanb72Zzzz8Soyo83Zzzz13Cans16Pauc57Zzzz7Deva10",
   "Zzzz246Bhks9ZzzzBhks45ZzzzBhks14Zzzz10Bhks29Zzzz3Marc32Zzzz2Marc22ZzzzMarc14Zzzz73Gonm7Zzzz",
   "Gonm2ZzzzGonm44Zzzz3GonmZzzzGonm2ZzzzGonm9Zzzz8Gonm10Zzzz6Gong6ZzzzGong2ZzzzGong37ZzzzGong2",
   "ZzzzGong6Zzzz7Gong10Zzzz310Maka25Zzzz7Kawi17ZzzzKawi41Zzzz3Kawi28Zzzz86LisuZzzz15Taml50",
   "Zzzz13TamlXsux922Zzzz102Xsux111ZzzzXsux5Zzzz11Xsux196Zzzz2636Cpmn99Zzzz13Egyp1110Zzzz4010",
   "Hluw583Zzzz8633Bamu569Zzzz7Mroo31ZzzzMroo10Zzzz4Mroo2Tnsa79ZzzzTnsa10Zzzz6Bass30Zzzz2Bass6",
   "Zzzz10Hmng70Zzzz10Hmng10ZzzzHmng7ZzzzHmng21Zzzz5Hmng19Zzzz688Medf91Zzzz101Plrd75Zzzz4Plrd57",
   "Zzzz7Plrd17Zzzz64TangNshuHani2KitsZzzz11Hani2Zzzz14Tang6136Zzzz8Tang768Kits470Zzzz42Tang9",
   "Zzzz8935Kana4ZzzzKana7ZzzzKana2ZzzzKanaHira287Kana3Zzzz15HiraZzzz29Hira3Zzzz2KanaZzzz14Kana4",
   "Zzzz8Nshu396Zzzz2308Dupl107Zzzz5Dupl13Zzzz3Dupl9Zzzz7Dupl10Zzzz2Dupl4Zyyy4Zzzz4700Zinh46",
   "Zzzz2Zinh23Zzzz9Zyyy116Zzzz60Zyyy246Zzzz10Zyyy39Zzzz2Zyyy62Zinh3Zyyy17Zinh8Zyyy2Zinh7Zyyy30",
   "Zinh4Zyyy61Zzzz21Grek70Zzzz122Zyyy20Zzzz12Zyyy20Zzzz12Zyyy87Zzzz9Zyyy25Zzzz135Zyyy85Zzzz",
   "Zyyy71ZzzzZyyy2Zzzz2ZyyyZzzz2Zyyy2Zzzz2Zyyy4ZzzzZyyy12ZzzzZyyyZzzzZyyy7ZzzzZyyy65ZzzzZyyy4",
   "Zzzz2Zyyy8ZzzzZyyy7ZzzzZyyy28ZzzzZyyy4ZzzzZyyy5ZzzzZyyyZzzz3Zyyy7ZzzzZyyy340Zzzz2Zyyy292",
   "Zzzz2Zyyy50Sgnw652Zzzz15Sgnw5ZzzzSgnw15Zzzz1104Latn31Zzzz6Latn6Zzzz213Glag7ZzzzGlag17Zzzz2",
   "Glag7ZzzzGlag2ZzzzGlag5Zzzz5Cyrl62Zzzz33CyrlZzzz112Hmnp45Zzzz3Hmnp14Zzzz2Hmnp10Zzzz4Hmnp2",
   "Zzzz320Toto31Zzzz17Wcho58Zzzz5WchoZzzz464Nagm42Zzzz742Ethi7ZzzzEthi4ZzzzEthi2ZzzzEthi15Zzzz",
   "Mend197Zzzz2Mend16Zzzz41Adlm76Zzzz4Adlm10Zzzz4Adlm2Zzzz785Zyyy68Zzzz76Zyyy61Zzzz194Arab4Zzzz",
   "Arab27ZzzzArab2ZzzzArabZzzz2ArabZzzzArab10ZzzzArab4ZzzzArabZzzzArabZzzz6ArabZzzz4ArabZzzz",
   "ArabZzzzArabZzzzArab3ZzzzArab2ZzzzArabZzzz2ArabZzzzArabZzzzArabZzzzArabZzzzArabZzzzArab2Zzzz",
   "ArabZzzz2Arab4ZzzzArab7ZzzzArab4ZzzzArab4ZzzzArabZzzzArab10ZzzzArab17Zzzz5Arab3ZzzzArab5Zzzz",
   "Arab17Zzzz52Arab2Zzzz270Zyyy44Zzzz4Zyyy100Zzzz12Zyyy15Zzzz2Zyyy15ZzzzZyyy15ZzzzZyyy37Zzzz10",
   "Zyyy174Zzzz56Zyyy26HiraZyyy2Zzzz13Zyyy44Zzzz4Zyyy9Zzzz7Zyyy2Zzzz14Zyyy6Zzzz154Zyyy984Zzzz4",
   "Zyyy17Zzzz3Zyyy13Zzzz3Zyyy119Zzzz4Zyyy95Zzzz6Zyyy12Zzzz4ZyyyZzzz15Zyyy12Zzzz4Zyyy56Zzzz8",
   "Zyyy10Zzzz6Zyyy40Zzzz8Zyyy30Zzzz2Zyyy2Zzzz78Zyyy340Zzzz12Zyyy14Zzzz2Zyyy13Zzzz3Zyyy9Zzzz7",
   "Zyyy46ZzzzZyyy7Zzzz8Zyyy14Zzzz4Zyyy9Zzzz7Zyyy9Zzzz7Zyyy147ZzzzZyyy55Zzzz37Zyyy10Zzzz1030",
   "Hani42720Zzzz32Hani4154Zzzz6Hani222Zzzz2Hani5762Zzzz14Hani7473Zzzz3103Hani542Zzzz1506",
   "Hani4939Zzzz5Hani4192Zzzz711761ZyyyZzzz30Zyyy96Zzzz128Zinh240Zzzz196112Zzzz"]

/-- The four-letter code of every script with its names. -/
def scriptNames : List (String × List String) :=
  [("Zyyy", ["Common"]),
   ("Latn", ["Latin"]),
   ("Bopo", ["Bopomofo"]),
   ("Zinh", ["Inherited", "Qaai"]),
   ("Grek", ["Greek"]),
   ("Zzzz", ["Unknown"]),
   ("Copt", ["Coptic", "Qaac"]),
   ("Cyrl", ["Cyrillic"]),
   ("Armn", ["Armenian"]),
   ("Hebr", ["Hebrew"]),
   ("Arab", ["Arabic"]),
   ("Syrc", ["Syriac"]),
   ("Thaa", ["Thaana"]),
   ("Nkoo", ["Nko"]),
   ("Samr", ["Samaritan"]),
   ("Mand", ["Mandaic"]),
   ("Deva", ["Devanagari"]),
   ("Beng", ["Bengali"]),
   ("Guru", ["Gurmukhi"]),
   ("Gujr", ["Gujarati"]),
   ("Orya", ["Oriya"]),
   ("Taml", ["Tamil"]),
   ("Telu", ["Telugu"]),
   ("Knda", ["Kannada"]),
   ("Mlym", ["Malayalam"]),
   ("Sinh", ["Sinhala"]),
   ("Thai", ["Thai"]),
   ("Laoo", ["Lao"]),
   ("Tibt", ["Tibetan"]),
   ("Mymr", ["Myanmar"]),
   ("Geor", ["Georgian"]),
   ("Hang", ["Hangul"]),
   ("Ethi", ["Ethiopic"]),
   ("Cher", ["Cherokee"]),
   ("Cans", ["Canadian_Aboriginal"]),
   ("Ogam", ["Ogham"]),
   ("Runr", ["Runic"]),
   ("Tglg", ["Tagalog"]),
   ("Hano", ["Hanunoo"]),
   ("Buhd", ["Buhid"]),
   ("Tagb", ["Tagbanwa"]),
   ("Khmr", ["Khmer"]),
   ("Mong", ["Mongolian"]),
   ("Limb", ["Limbu"]),
   ("Tale", ["Tai_Le"]),
   ("Talu", ["New_Tai_Lue"]),
   ("Bugi", ["Buginese"]),
   ("Lana", ["Tai_Tham"]),
   ("Bali", ["Balinese"]),
   ("Sund", ["Sundanese"]),
   ("Batk", ["Batak"]),
   ("Lepc", ["Lepcha"]),
   ("Olck", ["Ol_Chiki"]),
   ("Brai", ["Braille"]),
   ("Glag", ["Glagolitic"]),
   ("Tfng", ["Tifinagh"]),
   ("Hani", ["Han"]),
   ("Hira", ["Hiragana"]),
   ("Kana", ["Katakana"]),
   ("Yiii", ["Yi"]),
   ("Lisu", ["Lisu"]),
   ("Vaii", ["Vai"]),
   ("Bamu", ["Bamum"]),
   ("Sylo", ["Syloti_Nagri"]),
   ("Phag", ["Phags_Pa"]),
   ("Saur", ["Saurashtra"]),
   ("Kali", ["Kayah_Li"]),
   ("Rjng", ["Rejang"]),
   ("Java", ["Javanese"]),
   ("Cham", ["Cham"]),
   ("Tavt", ["Tai_Viet"]),
   ("Mtei", ["Meetei_Mayek"]),
   ("Linb", ["Linear_B"]),
   ("Lyci", ["Lycian"]),
   ("Cari", ["Carian"]),
   ("Ital", ["Old_Italic"]),
   ("Goth", ["Gothic"]),
   ("Perm", ["Old_Permic"]),
   ("Ugar", ["Ugaritic"]),
   ("Xpeo", ["Old_Persian"]),
   ("Dsrt", ["Deseret"]),
   ("Shaw", ["Shavian"]),
   ("Osma", ["Osmanya"]),
   ("Osge", ["Osage"]),
   ("Elba", ["Elbasan"]),
   ("Aghb", ["Caucasian_Albanian"]),
   ("Vith", ["Vithkuqi"]),
   ("Lina", ["Linear_A"]),
   ("Cprt", ["Cypriot"]),
   ("Armi", ["Imperial_Aramaic"]),
   ("Palm", ["Palmyrene"]),
   ("Nbat", ["Nabataean"]),
   ("Hatr", ["Hatran"]),
   ("Phnx", ["Phoenician"]),
   ("Lydi", ["Lydian"]),
   ("Mero", ["Meroitic_Hieroglyphs"]),
   ("Merc", ["Meroitic_Cursive"]),
   ("Khar", ["Kharoshthi"]),
   ("Sarb", ["Old_South_Arabian"]),
   ("Narb", ["Old_North_Arabian"]),
   ("Mani", ["Manichaean"]),
   ("Avst", ["Avestan"]),
   ("Prti", ["Inscriptional_Parthian"]),
   ("Phli", ["Inscriptional_Pahlavi"]),
   ("Phlp", ["Psalter_Pahlavi"]),
   ("Orkh", ["Old_Turkic"]),
   ("Hung", ["Old_Hungarian"]),
   ("Rohg", ["Hanifi_Rohingya"]),
   ("Yezi", ["Yezidi"]),
   ("Sogo", ["Old_Sogdian"]),
   ("Sogd", ["Sogdian"]),
   ("Ougr", ["Old_Uyghur"]),
   ("Chrs", ["Chorasmian"]),
   ("Elym", ["Elymaic"]),
   ("Brah", ["Brahmi"]),
   ("Kthi", ["Kaithi"]),
   ("Sora", ["Sora_Sompeng"]),
   ("Cakm", ["Chakma"]),
   ("Mahj", ["Mahajani"]),
   ("Shrd", ["Sharada"]),
   ("Khoj", ["Khojki"]),
   ("Mult", ["Multani"]),
   ("Sind", ["Khudawadi"]),
   ("Gran", ["Grantha"]),
   ("Newa", ["Newa"]),
   ("Tirh", ["Tirhuta"]),
   ("Sidd", ["Siddham"]),
   ("Modi", ["Modi"]),
   ("Takr", ["Takri"]),
   ("Ahom", ["Ahom"]),
   ("Dogr", ["Dogra"]),
   ("Wara", ["Warang_Citi"]),
   ("Diak", ["Dives_Akuru"]),
   ("Nand", ["Nandinagari"]),
   ("Zanb", ["Zanabazar_Square"]),
   ("Soyo", ["Soyombo"]),
   ("Pauc", ["Pau_Cin_Hau"]),
   ("Bhks", ["Bhaiksuki"]),
   ("Marc", ["Marchen"]),
   ("Gonm", ["Masaram_Gondi"]),
   ("Gong", ["Gunjala_Gondi"]),
   ("Maka", ["Makasar"]),
   ("Kawi", ["Kawi"]),
   ("Xsux", ["Cuneiform"]),
   ("Cpmn", ["Cypro_Minoan"]),
   ("Egyp", ["Egyptian_Hieroglyphs"]),
   ("Hluw", ["Anatolian_Hieroglyphs"]),
   ("Mroo", ["Mro"]),
   ("Tnsa", ["Tangsa"]),
   ("Bass", ["Bassa_Vah"]),
   ("Hmng", ["Pahawh_Hmong"]),
   ("Medf", ["Medefaidrin"]),
   ("Plrd", ["Miao"]),
   ("Tang", ["Tangut"]),
   ("Nshu", ["Nushu"]),
   ("Kits", ["Khitan_Small_Script"]),
   ("Dupl", ["Duployan"]),
   ("Sgnw", ["SignWriting"]),
   ("Hmnp", ["Nyiakeng_Puachue_Hmong"]),
   ("Toto", ["Toto"]),
   ("Wcho", ["Wancho"]),
   ("Nagm", ["Nag_Mundari"]),
   ("Mend", ["Mende_Kikakui"]),
   ("Adlm", ["Adlam"])]

/-- What is known while the runs are read. -/
structure ScriptReading where
  /-- The runs so far. -/
  runs : Array (Nat × String) := #[]
  /-- The code point the current run starts at. -/
  start : Nat := 0
  /-- The letters of its script. -/
  letters : List Char := []
  /-- Its length, as far as its digits were read; without digits it is one. -/
  length : Option Nat := none

/-- Close the run being read. -/
def ScriptReading.close (r : ScriptReading) : ScriptReading :=
  if r.letters.isEmpty then r
  else
    { runs := r.runs.push (r.start, String.ofList r.letters),
      start := r.start + r.length.getD 1 }

/-- Read one more character of the table. -/
def ScriptReading.next (r : ScriptReading) (c : Char) : ScriptReading :=
  if c.isDigit then
    { r with length := some (r.length.getD 0 * 10 + (c.toNat - '0'.toNat)) }
  else if c.isUpper then
    let closed := r.close
    { closed with letters := [c] }
  else
    { r with letters := r.letters ++ [c] }

/-- The first code point and the script of every run, in code point order. -/
def scripts : Array (Nat × String) :=
  (scriptRuns.toList.foldl ScriptReading.next {}).close.runs

/-- The four-letter code of the script of a character. -/
def script (c : Char) : String :=
  match (scripts.toList.takeWhile (fun r => r.1 ≤ c.toNat)).getLast? with
  | some (_, s) => s
  | none => "Zzzz"

end Wayfinder.Text
