import RestDispatch.Text.ValueMap

/-!
# Scripts

Every character belongs to one script, or to no particular one (`Common`, `Inherited`).
Some characters are used in several scripts; those are the extensions of each of them.
Scripts go by codes of four letters and by names.
-/

namespace RestDispatch.Text

/-- The code of the script of every code point, which is `Zzzz` where there is none. -/
def scriptCodes : ValueMap := .ofText
  "65Zyyy26Latn6Zyyy26Latn47ZyyyLatn15ZyyyLatn5Zyyy23LatnZyyy31LatnZyyy449Latn39Zyyy5Latn5Zyyy
    2Bopo20Zyyy112Zinh4GrekZyyy3Grek2Zzzz4GrekZyyyGrek4ZzzzGrekZyyyGrekZyyy3GrekZzzzGrekZzzz
    20GrekZzzz63Grek14Copt16Grek133Cyrl2Zinh169CyrlZzzz38Armn2Zzzz50Armn2Zzzz3ArmnZzzz55Hebr
    8Zzzz27Hebr4Zzzz6Hebr11Zzzz5ArabZyyy6ArabZyyy14ArabZyyy3ArabZyyy32ArabZyyy10Arab11Zinh26Arab
    Zinh108ArabZyyy34Arab14SyrcZzzz60Syrc2Zzzz3Syrc48Arab50Thaa14Zzzz59Nkoo2Zzzz3Nkoo46Samr2Zzzz
    15SamrZzzz28Mand2ZzzzMandZzzz11Syrc5Zzzz31ArabZzzz2Arab5Zzzz75ArabZyyy29Arab81Deva4Zinh
    15Deva2Zyyy26Deva4BengZzzz8Beng2Zzzz2Beng2Zzzz22BengZzzz7BengZzzzBeng3Zzzz4Beng2Zzzz9Beng
    2Zzzz2Beng2Zzzz4Beng8ZzzzBeng4Zzzz2BengZzzz5Beng2Zzzz25Beng2Zzzz3GuruZzzz6Guru4Zzzz2Guru
    2Zzzz22GuruZzzz7GuruZzzz2GuruZzzz2GuruZzzz2Guru2ZzzzGuruZzzz5Guru4Zzzz2Guru2Zzzz3Guru3Zzzz
    Guru7Zzzz4GuruZzzzGuru7Zzzz17Guru10Zzzz3GujrZzzz9GujrZzzz3GujrZzzz22GujrZzzz7GujrZzzz2Gujr
    Zzzz5Gujr2Zzzz10GujrZzzz3GujrZzzz3Gujr2ZzzzGujr15Zzzz4Gujr2Zzzz12Gujr7Zzzz7GujrZzzz3OryaZzzz
    8Orya2Zzzz2Orya2Zzzz22OryaZzzz7OryaZzzz2OryaZzzz5Orya2Zzzz9Orya2Zzzz2Orya2Zzzz3Orya7Zzzz
    3Orya4Zzzz2OryaZzzz5Orya2Zzzz18Orya10Zzzz2TamlZzzz6Taml3Zzzz3TamlZzzz4Taml3Zzzz2TamlZzzzTaml
    Zzzz2Taml3Zzzz2Taml3Zzzz3Taml3Zzzz12Taml4Zzzz5Taml3Zzzz3TamlZzzz4Taml2ZzzzTaml6ZzzzTaml
    14Zzzz21Taml5Zzzz13TeluZzzz3TeluZzzz23TeluZzzz16Telu2Zzzz9TeluZzzz3TeluZzzz4Telu7Zzzz2Telu
    Zzzz3Telu2ZzzzTelu2Zzzz4Telu2Zzzz10Telu7Zzzz9Telu13KndaZzzz3KndaZzzz23KndaZzzz10KndaZzzz
    5Knda2Zzzz9KndaZzzz3KndaZzzz4Knda7Zzzz2Knda6Zzzz2KndaZzzz4Knda2Zzzz10KndaZzzz3Knda12Zzzz
    13MlymZzzz3MlymZzzz51MlymZzzz3MlymZzzz6Mlym4Zzzz16Mlym2Zzzz26MlymZzzz3SinhZzzz18Sinh3Zzzz
    24SinhZzzz9SinhZzzzSinh2Zzzz7Sinh3ZzzzSinh4Zzzz6SinhZzzzSinhZzzz8Sinh6Zzzz10Sinh2Zzzz3Sinh
    12Zzzz58Thai4ZzzzZyyy28Thai37Zzzz2LaooZzzzLaooZzzz5LaooZzzz24LaooZzzzLaooZzzz23Laoo2Zzzz
    5LaooZzzzLaooZzzz7LaooZzzz10Laoo2Zzzz4Laoo32Zzzz72TibtZzzz36Tibt4Zzzz39TibtZzzz36TibtZzzz
    15TibtZzzz7Tibt4Zyyy2Tibt37Zzzz160Mymr38GeorZzzzGeor5ZzzzGeor2Zzzz43GeorZyyy4Geor256Hang
    73EthiZzzz4Ethi2Zzzz7EthiZzzzEthiZzzz4Ethi2Zzzz41EthiZzzz4Ethi2Zzzz33EthiZzzz4Ethi2Zzzz7Ethi
    ZzzzEthiZzzz4Ethi2Zzzz15EthiZzzz57EthiZzzz4Ethi2Zzzz67Ethi2Zzzz32Ethi3Zzzz26Ethi6Zzzz86Cher
    2Zzzz6Cher2Zzzz640Cans29Ogam3Zzzz75Runr3Zyyy11Runr7Zzzz22Tglg9ZzzzTglg21Hano2Zyyy9Zzzz20Buhd
    12Zzzz13TagbZzzz3TagbZzzz2Tagb12Zzzz94Khmr2Zzzz10Khmr6Zzzz10Khmr6Zzzz2Mong2ZyyyMongZyyy
    20Mong6Zzzz89Mong7Zzzz43Mong5Zzzz70Cans10Zzzz31LimbZzzz12Limb4Zzzz12Limb4ZzzzLimb3Zzzz12Limb
    30Tale2Zzzz5Tale11Zzzz44Talu4Zzzz26Talu6Zzzz11Talu3Zzzz2Talu32Khmr28Bugi2Zzzz2Bugi63LanaZzzz
    29Lana2Zzzz11Lana6Zzzz10Lana6Zzzz14Lana2Zzzz31Zinh49Zzzz77BaliZzzz50Bali64Sund52Batk8Zzzz
    4Batk56Lepc3Zzzz15Lepc3Zzzz3Lepc48Olck11Cyrl5Zzzz43Geor2Zzzz3Geor8Sund8Zzzz3ZinhZyyy13Zinh
    Zyyy7Zinh4ZyyyZinh6ZyyyZinh3Zyyy2ZinhZyyy5Zzzz38Latn5GrekCyrl49Latn5Grek4Latn5Grek13LatnCyrl
    70LatnGrek64Zinh256Latn22Grek2Zzzz6Grek2Zzzz38Grek2Zzzz6Grek2Zzzz8GrekZzzzGrekZzzzGrekZzzz
    GrekZzzz31Grek2Zzzz53GrekZzzz15GrekZzzz14Grek2Zzzz6GrekZzzz19Grek2Zzzz3GrekZzzz9GrekZzzz
    12Zyyy2Zinh87ZyyyZzzz11ZyyyLatn2Zzzz11ZyyyLatn15ZyyyZzzz13Latn3Zzzz33Zyyy15Zzzz33Zinh15Zzzz
    38ZyyyGrek3Zyyy2Latn6ZyyyLatn27ZyyyLatn17Zyyy41Latn3Zyyy4Zzzz666Zyyy22Zzzz11Zyyy21Zzzz
    928Zyyy256Brai628Zyyy2Zzzz32ZyyyZzzz105Zyyy96Glag32Latn116Copt5Zzzz7Copt38GeorZzzzGeor5Zzzz
    Geor2Zzzz56Tfng7Zzzz2Tfng14ZzzzTfng23Ethi9Zzzz7EthiZzzz7EthiZzzz7EthiZzzz7EthiZzzz7EthiZzzz
    7EthiZzzz7EthiZzzz7EthiZzzz32Cyrl94Zyyy34Zzzz26HaniZzzz89Hani12Zzzz214Hani26Zzzz21ZyyyHani
    ZyyyHani25Zyyy9Hani4Zinh2Hang8Zyyy4Hani4ZyyyZzzz86Hira2Zzzz2Zinh2Zyyy3HiraZyyy90Kana2Zyyy
    3Kana5Zzzz43BopoZzzz94HangZzzz16Zyyy32Bopo38Zyyy9ZzzzZyyy16Kana31HangZzzz64Zyyy31Hang81Zyyy
    47KanaZyyy88Kana168Zyyy6592Hani64Zyyy20992Hani1165Yiii3Zzzz55Yiii9Zzzz48Lisu300Vaii20Zzzz
    96Cyrl88Bamu8Zzzz34Zyyy102Latn3Zyyy67Latn2Zzzz2LatnZzzzLatnZzzz8Latn21Zzzz14Latn45Sylo3Zzzz
    10Zyyy6Zzzz56Phag8Zzzz70Saur8Zzzz12Saur6Zzzz32Deva46KaliZyyyKali36Rjng11ZzzzRjng29Hang3Zzzz
    78JavaZzzzZyyy10Java4Zzzz2Java31MymrZzzz55Cham9Zzzz14Cham2Zzzz10Cham2Zzzz4Cham32Mymr67Tavt
    24Zzzz5Tavt23Mtei10Zzzz6Ethi2Zzzz6Ethi2Zzzz6Ethi9Zzzz7EthiZzzz7EthiZzzz43LatnZyyy9LatnGrek
    4Latn2Zyyy4Zzzz80Cher46Mtei2Zzzz10Mtei6Zzzz11172Hang12Zzzz23Hang4Zzzz49Hang8452Zzzz366Hani
    2Zzzz106Hani38Zzzz7Latn12Zzzz5Armn5Zzzz26HebrZzzz5HebrZzzzHebrZzzz2HebrZzzz2HebrZzzz10Hebr
    115Arab16Zzzz363Arab2Zyyy80Arab2Zzzz54Arab7ZzzzArab32Zzzz16Arab16Zinh10Zyyy6Zzzz14Zinh2Cyrl
    35ZyyyZzzz19ZyyyZzzz4Zyyy4Zzzz5ArabZzzz135Arab2ZzzzZyyyZzzz32Zyyy26Latn6Zyyy26Latn11Zyyy
    10KanaZyyy45Kana2Zyyy31Hang3Zzzz6Hang2Zzzz6Hang2Zzzz6Hang2Zzzz3Hang3Zzzz7ZyyyZzzz7Zyyy10Zzzz
    5Zyyy2Zzzz12LinbZzzz26LinbZzzz19LinbZzzz2LinbZzzz15Linb2Zzzz14Linb34Zzzz123Linb5Zzzz3Zyyy
    4Zzzz45Zyyy3Zzzz9Zyyy79GrekZzzz13Zyyy3ZzzzGrek47Zzzz45ZyyyZinh130Zzzz29Lyci3Zzzz49Cari15Zzzz
    Zinh27Zyyy4Zzzz36Ital9Zzzz3Ital27Goth5Zzzz43Perm5Zzzz30UgarZzzzUgar36Xpeo4Zzzz14Xpeo42Zzzz
    80Dsrt48Shaw30Osma2Zzzz10Osma6Zzzz36Osge4Zzzz36Osge4Zzzz40Elba8Zzzz52Aghb11ZzzzAghb11Vith
    Zzzz15VithZzzz7VithZzzz2VithZzzz11VithZzzz15VithZzzz7VithZzzz2Vith3Zzzz52Todr12Zzzz311Lina
    9Zzzz22Lina10Zzzz8Lina24Zzzz6LatnZzzz42LatnZzzz9Latn69Zzzz6Cprt2ZzzzCprtZzzz44CprtZzzz2Cprt
    3ZzzzCprt2ZzzzCprt22ArmiZzzz9Armi32Palm31Nbat8Zzzz9Nbat48Zzzz19HatrZzzz2Hatr5Zzzz5Hatr28Phnx
    3ZzzzPhnx26Lydi5ZzzzLydi64Zzzz32Mero24Merc4Zzzz20Merc2Zzzz46Merc4KharZzzz2Khar5Zzzz8KharZzzz
    3KharZzzz29Khar2Zzzz3Khar4Zzzz10Khar7Zzzz9Khar7Zzzz32Sarb32Narb32Zzzz39Mani4Zzzz12Mani9Zzzz
    54Avst3Zzzz7Avst22Prti2Zzzz8Prti19Phli5Zzzz8Phli18Phlp7Zzzz4Phlp12Zzzz7Phlp80Zzzz73Orkh
    55Zzzz51Hung13Zzzz51Hung7Zzzz6Hung40Rohg8Zzzz10Rohg6Zzzz38Gara3Zzzz29Gara8Zzzz2Gara208Zzzz
    31ArabZzzz42YeziZzzz3Yezi2Zzzz2Yezi16Zzzz3Arab55Zzzz4Arab40Sogo8Zzzz42Sogd22Zzzz26Ougr38Zzzz
    28Chrs20Zzzz23Elym9Zzzz78Brah4Zzzz36Brah9ZzzzBrah67Kthi10ZzzzKthi2Zzzz25Sora7Zzzz10Sora6Zzzz
    53CakmZzzz18Cakm8Zzzz39Mahj9Zzzz96ShrdZzzz20Sinh11Zzzz18KhojZzzz47Khoj62Zzzz7MultZzzzMult
    Zzzz4MultZzzz15MultZzzz11Mult6Zzzz59Sind5Zzzz10Sind6Zzzz4GranZzzz8Gran2Zzzz2Gran2Zzzz22Gran
    Zzzz7GranZzzz2GranZzzz5GranZzzzZinh9Gran2Zzzz2Gran2Zzzz3Gran2ZzzzGran6ZzzzGran5Zzzz7Gran
    2Zzzz7Gran3Zzzz5Gran11Zzzz10TutgZzzzTutg2ZzzzTutgZzzz38TutgZzzz10TutgZzzzTutg2ZzzzTutgZzzz
    4TutgZzzz10TutgZzzz2Tutg8Zzzz2Tutg29Zzzz92NewaZzzz5Newa30Zzzz72Tirh8Zzzz10Tirh166Zzzz54Sidd
    2Zzzz38Sidd34Zzzz69Modi11Zzzz10Modi6Zzzz13Mong19Zzzz58Takr6Zzzz10Takr6Zzzz20Mymr28Zzzz27Ahom
    2Zzzz15Ahom4Zzzz23Ahom185Zzzz60Dogr100Zzzz83Wara12ZzzzWara7Diak2ZzzzDiak2Zzzz8DiakZzzz2Diak
    Zzzz30DiakZzzz2Diak2Zzzz12Diak9Zzzz10Diak70Zzzz8Nand2Zzzz46Nand2Zzzz11Nand27Zzzz72Zanb8Zzzz
    83Soyo13Zzzz16Cans57Pauc7Zzzz10Deva182Zzzz34Sunu14Zzzz10Sunu6Zzzz9BhksZzzz45BhksZzzz14Bhks
    10Zzzz29Bhks3Zzzz32Marc2Zzzz22MarcZzzz14Marc73Zzzz7GonmZzzz2GonmZzzz44Gonm3ZzzzGonmZzzz2Gonm
    Zzzz9Gonm8Zzzz10Gonm6Zzzz6GongZzzz2GongZzzz37GongZzzz2GongZzzz6Gong7Zzzz10Gong310Zzzz25Maka
    7Zzzz17KawiZzzz41Kawi3Zzzz29Kawi85ZzzzLisu15Zzzz50Taml13ZzzzTaml922Xsux102Zzzz111XsuxZzzz
    5Xsux11Zzzz196Xsux2636Zzzz99Cpmn13Zzzz1110Egyp10Zzzz3995Egyp5Zzzz583Hluw6841Zzzz58Gukh
    1734Zzzz569Bamu7Zzzz31MrooZzzz10Mroo4Zzzz2Mroo79TnsaZzzz10Tnsa6Zzzz30Bass2Zzzz6Bass10Zzzz
    70Hmng10Zzzz10HmngZzzz7HmngZzzz21Hmng5Zzzz19Hmng432Zzzz58Krai198Zzzz91Medf101Zzzz75Plrd4Zzzz
    57Plrd7Zzzz17Plrd64ZzzzTangNshu2HaniKits11Zzzz2Hani14Zzzz6136Tang8Zzzz768Tang470Kits41Zzzz
    Kits9Tang8935Zzzz4KanaZzzz7KanaZzzz2KanaZzzzKana287Hira3Kana15ZzzzHira29Zzzz3Hira2ZzzzKana
    14Zzzz4Kana8Zzzz396Nshu2308Zzzz107Dupl5Zzzz13Dupl3Zzzz9Dupl7Zzzz10Dupl2Zzzz4Dupl4Zyyy
    3932Zzzz250Zyyy6Zzzz436Zyyy76Zzzz46Zinh2Zzzz23Zinh9Zzzz116Zyyy60Zzzz246Zyyy10Zzzz39Zyyy2Zzzz
    62Zyyy3Zinh17Zyyy8Zinh2Zyyy7Zinh30Zyyy4Zinh61Zyyy21Zzzz70Grek122Zzzz20Zyyy12Zzzz20Zyyy12Zzzz
    87Zyyy9Zzzz25Zyyy135Zzzz85ZyyyZzzz71ZyyyZzzz2Zyyy2ZzzzZyyy2Zzzz2Zyyy2Zzzz4ZyyyZzzz12ZyyyZzzz
    ZyyyZzzz7ZyyyZzzz65ZyyyZzzz4Zyyy2Zzzz8ZyyyZzzz7ZyyyZzzz28ZyyyZzzz4ZyyyZzzz5ZyyyZzzzZyyy3Zzzz
    7ZyyyZzzz340Zyyy2Zzzz292Zyyy2Zzzz50Zyyy652Sgnw15Zzzz5SgnwZzzz15Sgnw1104Zzzz31Latn6Zzzz6Latn
    213Zzzz7GlagZzzz17Glag2Zzzz7GlagZzzz2GlagZzzz5Glag5Zzzz62Cyrl33ZzzzCyrl112Zzzz45Hmnp3Zzzz
    14Hmnp2Zzzz10Hmnp4Zzzz2Hmnp320Zzzz31Toto17Zzzz58Wcho5ZzzzWcho464Zzzz42Nagm214Zzzz43Onao4Zzzz
    Onao480Zzzz7EthiZzzz4EthiZzzz2EthiZzzz15EthiZzzz197Mend2Zzzz16Mend41Zzzz76Adlm4Zzzz10Adlm
    4Zzzz2Adlm785Zzzz68Zyyy76Zzzz61Zyyy194Zzzz4ArabZzzz27ArabZzzz2ArabZzzzArab2ZzzzArabZzzz
    10ArabZzzz4ArabZzzzArabZzzzArab6ZzzzArab4ZzzzArabZzzzArabZzzzArabZzzz3ArabZzzz2ArabZzzzArab
    2ZzzzArabZzzzArabZzzzArabZzzzArabZzzzArabZzzz2ArabZzzzArab2Zzzz4ArabZzzz7ArabZzzz4ArabZzzz
    4ArabZzzzArabZzzz10ArabZzzz17Arab5Zzzz3ArabZzzz5ArabZzzz17Arab52Zzzz2Arab270Zzzz44Zyyy4Zzzz
    100Zyyy12Zzzz15Zyyy2Zzzz15ZyyyZzzz15ZyyyZzzz37Zyyy10Zzzz174Zyyy56Zzzz26ZyyyHira2Zyyy13Zzzz
    44Zyyy4Zzzz9Zyyy7Zzzz2Zyyy14Zzzz6Zyyy154Zzzz984Zyyy4Zzzz17Zyyy3Zzzz13Zyyy3Zzzz119Zyyy4Zzzz
    95Zyyy6Zzzz12Zyyy4ZzzzZyyy15Zzzz12Zyyy4Zzzz56Zyyy8Zzzz10Zyyy6Zzzz40Zyyy8Zzzz30Zyyy2Zzzz
    12Zyyy4Zzzz2Zyyy62Zzzz340Zyyy12Zzzz14Zyyy2Zzzz13Zyyy3Zzzz10Zyyy5Zzzz56Zyyy7Zzzz15Zyyy2Zzzz
    11Zyyy6Zzzz9Zyyy7Zzzz147ZyyyZzzz102Zyyy1030Zzzz42720Hani32Zzzz4154Hani6Zzzz222Hani2Zzzz
    5762Hani14Zzzz7473Hani15Zzzz622Hani2466Zzzz542Hani1506Zzzz4939Hani5Zzzz4192Hani711761Zzzz
    Zyyy30Zzzz96Zyyy128Zzzz240Zinh196112Zzzz"

/-- The characters whose use goes beyond their script, by the codes of all the scripts they
are used in. -/
def sharedCharacters : List (String × String) := [
  ("Beng", "7415 1"),
  ("Deva", "7377 1 2 1 6 1 2 2 2 7 2 2 1 4"),
  ("Dupl", "11836 1 101987 4"),
  ("Grek", "834 1 2 1 6778 2"),
  ("Hani", "12294 1 55 2 336 16 32 38 58 40 56 49 15 12 51 1 88 25 10 5 96 31 106337 18 7902 2"),
  ("Latn", "867 13"),
  ("Nand", "7418 1"),
  ("Runr", "5867 3"),
  ("Syrc", "7674 1"),
  ("Adlm Arab", "8271 1"),
  ("Arab Copt", "66272 28"),
  ("Arab Nkoo", "64830 2"),
  ("Arab Rohg", "1748 1"),
  ("Arab Syrc", "1611 11 26 1"),
  ("Arab Thaa", "65010 1 10 1"),
  ("Avst Orkh", "11824 1"),
  ("Beng Deva", "7381 2 1 1 8 1 8 1 2 1 7 2"),
  ("Bopo Hani", "12330 4"),
  ("Bopo Latn", "711 1 1 3 13 1"),
  ("Bugi Java", "43471 1"),
  ("Copt Grek", "884 2"),
  ("Copt Latn", "11799 1"),
  ("Cprt Linb", "65794 1 52 9"),
  ("Cyrl Glag", "1156 1 2 1 10683 1 30763 1"),
  ("Cyrl Latn", "1157 2"),
  ("Cyrl Perm", "1155 1"),
  ("Deva Gran", "7411 1 4 2"),
  ("Deva Nand", "7401 1"),
  ("Deva Shrd", "7383 1 1 1 2 2 2 1"),
  ("Deva Taml", "43251 1"),
  ("Ethi Latn", "782 1"),
  ("Gran Taml", "3046 14 67341 1 1 1 55 2 3219 2 1 1"),
  ("Gujr Khoj", "2790 10"),
  ("Guru Mult", "2662 10"),
  ("Hani Latn", "42752 8"),
  ("Hani Tang", "12272 16 495 1"),
  ("Hira Kana", "12337 5 99 4 3 1 91 1 52851 1 45 2"),
  ("Latn Lisu", "717 1"),
  ("Latn Osge", "856 1"),
  ("Latn Sunu", "781 1 2 1"),
  ("Latn Syrc", "800 1 4 1 8 1"),
  ("Latn Tfng", "777 1"),
  ("Latn Thai", "727 1"),
  ("Mani Ougr", "68338 1"),
  ("Mong Phag", "6146 2 1 1"),
  ("Adlm Arab Hung", "11841 1"),
  ("Aghb Latn Todr", "862 1"),
  ("Arab Syrc Thaa", "1564 1"),
  ("Arab Thaa Yezi", "1632 10"),
  ("Armn Geor Glag", "1417 1"),
  ("Beng Cakm Sylo", "2534 10"),
  ("Beng Deva Tutg", "43249 1"),
  ("Cakm Mymr Tale", "4160 10"),
  ("Cher Latn Syrc", "816 1"),
  ("Cher Latn Tale", "780 1"),
  ("Cpmn Cprt Linb", "65792 2"),
  ("Cprt Lina Linb", "65799 45"),
  ("Cyrl Latn Syrc", "7672 1"),
  ("Cyrl Latn Todr", "785 1"),
  ("Deva Gran Knda", "7379 1"),
  ("Deva Gran Latn", "8432 1"),
  ("Dupl Latn Syrc", "778 1"),
  ("Geor Glag Latn", "4347 1"),
  ("Hani Hira Kana", "12348 2"),
  ("Kali Latn Mymr", "43310 1"),
  ("Knda Nand Tutg", "3302 10"),
  ("Latn Mong Phag", "8239 1"),
  ("Latn Sunu Syrc", "813 1"),
  ("Beng Deva Gran Knda", "7376 1 1 1"),
  ("Buhd Hano Tagb Tglg", "5941 2"),
  ("Cari Grek Hung Mero", "8285 1"),
  ("Cher Cyrl Latn Osge", "779 1"),
  ("Cher Cyrl Latn Tfng", "770 1"),
  ("Cher Dupl Latn Syrc", "804 1"),
  ("Cyrl Grek Latn Perm", "774 1"),
  ("Deva Dogr Kthi Mahj", "2406 10"),
  ("Deva Gran Knda Tutg", "7412 1"),
  ("Grek Latn Perm Todr", "787 1"),
  ("Bopo Hang Hani Hira Kana", "12291 1 15 1 8 4 16 1 6 1 52749 2"),
  ("Cher Dupl Kana Latn Syrc", "803 1"),
  ("Glag Latn Sunu Syrc Thai", "771 1"),
  ("Aghb Cher Goth Latn Sunu Thai", "817 1"),
  ("Bopo Hang Hani Hira Kana Yiii", "12300 6 2 8 223 1 52837 5"),
  ("Cari Geor Glag Hung Lyci Orkh", "8282 1"),
  ("Copt Elba Glag Goth Kana Latn", "773 1"),
  ("Deva Knda Mlym Orya Taml Telu", "7386 1"),
  ("Arab Gara Nkoo Rohg Syrc Thaa Yezi", "1548 1 14 1"),
  ("Avst Cari Geor Hung Kthi Lydi Samr", "11825 1"),
  ("Beng Cyrl Deva Latn Lisu Thai Toto", "700 1"),
  ("Bopo Hang Hani Hira Kana Mong Yiii", "12289 1"),
  ("Adlm Arab Gara Nkoo Rohg Syrc Thaa Yezi", "1567 1"),
  ("Bopo Hang Hani Hira Kana Mong Phag Yiii", "12290 1"),
  ("Bopo Hang Hani Hira Kana Mong Tibt Yiii", "12296 2"),
  ("Cher Copt Cyrl Grek Latn Perm Sunu Tale", "768 1"),
  ("Cher Cyrl Grek Latn Osge Sunu Tale Todr", "769 1"),
  ("Adlm Arab Mand Mani Ougr Phlp Rohg Sogd Syrc", "1600 1"),
  ("Bopo Hang Hani Hira Kana Lisu Mong Tibt Yiii", "12298 2"),
  ("Copt Dupl Hebr Latn Perm Syrc Tale Tfng Todr", "775 1"),
  ("Armn Cyrl Dupl Goth Grek Hebr Latn Perm Syrc Tale", "776 1"),
  ("Aghb Cher Copt Cyrl Goth Grek Latn Osge Syrc Tfng Todr", "772 1"),
  ("Beng Deva Gran Knda Mlym Nand Orya Sinh Telu Tirh Tutg", "7410 1"),
  ("Deva Dogr Gujr Guru Khoj Kthi Mahj Modi Sind Takr Tirh", "43062 2 1 1"),
  ("Beng Deva Gran Gujr Guru Knda Latn Mlym Orya Taml Telu Tirh", "2386 1"),
  ("Deva Dogr Gujr Guru Khoj Kthi Mahj Modi Shrd Sind Takr Tirh", "43064 1"),
  ("Beng Deva Gran Gujr Guru Knda Latn Mlym Orya Shrd Taml Telu Tirh", "2385 1"),
  ("Deva Dogr Gujr Guru Khoj Knda Kthi Mahj Modi Nand Shrd Sind Takr Tirh Tutg", "43059 3"),
  ("Avst Cari Copt Dupl Elba Geor Glag Gong Goth Grek Hani Latn Lydi Mahj Perm Shaw", "183 1"),
  ("Deva Dogr Gujr Guru Khoj Knda Kthi Mahj Mlym Modi Nand Shrd Sind Takr Tirh Tutg", "43056 3"),
  ("Beng Deva Dogr Gong Gonm Gran Gujr Guru Knda Mahj Mlym Nand Onao Orya Sind Sinh Sylo Takr
     Taml Telu Tirh",
    "2404 1"),
  ("Beng Deva Dogr Gong Gonm Gran Gujr Gukh Guru Knda Limb Mahj Mlym Nand Onao Orya Sind Sinh
     Sylo Takr Taml Telu Tirh",
    "2405 1")]

def scriptNames : List (String × String) := [
  ("Adlm", "Adlam"), ("Ahom", "Ahom"), ("Hluw", "Anatolian_Hieroglyphs"), ("Arab", "Arabic"),
  ("Armn", "Armenian"), ("Avst", "Avestan"), ("Bali", "Balinese"), ("Bamu", "Bamum"),
  ("Bass", "Bassa_Vah"), ("Batk", "Batak"), ("Beng", "Bengali"), ("Bhks", "Bhaiksuki"),
  ("Bopo", "Bopomofo"), ("Brah", "Brahmi"), ("Brai", "Braille"), ("Bugi", "Buginese"),
  ("Buhd", "Buhid"), ("Cans", "Canadian_Aboriginal"), ("Cari", "Carian"),
  ("Aghb", "Caucasian_Albanian"), ("Cakm", "Chakma"), ("Cham", "Cham"), ("Cher", "Cherokee"),
  ("Chrs", "Chorasmian"), ("Zyyy", "Common"), ("Copt", "Coptic"), ("Xsux", "Cuneiform"),
  ("Cprt", "Cypriot"), ("Cpmn", "Cypro_Minoan"), ("Cyrl", "Cyrillic"), ("Dsrt", "Deseret"),
  ("Deva", "Devanagari"), ("Diak", "Dives_Akuru"), ("Dogr", "Dogra"), ("Dupl", "Duployan"),
  ("Egyp", "Egyptian_Hieroglyphs"), ("Elba", "Elbasan"), ("Elym", "Elymaic"),
  ("Ethi", "Ethiopic"), ("Gara", "Garay"), ("Geor", "Georgian"), ("Glag", "Glagolitic"),
  ("Goth", "Gothic"), ("Gran", "Grantha"), ("Grek", "Greek"), ("Gujr", "Gujarati"),
  ("Gong", "Gunjala_Gondi"), ("Guru", "Gurmukhi"), ("Gukh", "Gurung_Khema"), ("Hani", "Han"),
  ("Hang", "Hangul"), ("Rohg", "Hanifi_Rohingya"), ("Hano", "Hanunoo"), ("Hatr", "Hatran"),
  ("Hebr", "Hebrew"), ("Hira", "Hiragana"), ("Armi", "Imperial_Aramaic"), ("Zinh", "Inherited"),
  ("Phli", "Inscriptional_Pahlavi"), ("Prti", "Inscriptional_Parthian"), ("Java", "Javanese"),
  ("Kthi", "Kaithi"), ("Knda", "Kannada"), ("Kana", "Katakana"), ("Kawi", "Kawi"),
  ("Kali", "Kayah_Li"), ("Khar", "Kharoshthi"), ("Kits", "Khitan_Small_Script"),
  ("Khmr", "Khmer"), ("Khoj", "Khojki"), ("Sind", "Khudawadi"), ("Krai", "Kirat_Rai"),
  ("Laoo", "Lao"), ("Latn", "Latin"), ("Lepc", "Lepcha"), ("Limb", "Limbu"), ("Lina", "Linear_A"),
  ("Linb", "Linear_B"), ("Lisu", "Lisu"), ("Lyci", "Lycian"), ("Lydi", "Lydian"),
  ("Mahj", "Mahajani"), ("Maka", "Makasar"), ("Mlym", "Malayalam"), ("Mand", "Mandaic"),
  ("Mani", "Manichaean"), ("Marc", "Marchen"), ("Gonm", "Masaram_Gondi"), ("Medf", "Medefaidrin"),
  ("Mtei", "Meetei_Mayek"), ("Mend", "Mende_Kikakui"), ("Merc", "Meroitic_Cursive"),
  ("Mero", "Meroitic_Hieroglyphs"), ("Plrd", "Miao"), ("Modi", "Modi"), ("Mong", "Mongolian"),
  ("Mroo", "Mro"), ("Mult", "Multani"), ("Mymr", "Myanmar"), ("Nbat", "Nabataean"),
  ("Nagm", "Nag_Mundari"), ("Nand", "Nandinagari"), ("Talu", "New_Tai_Lue"), ("Newa", "Newa"),
  ("Nkoo", "Nko"), ("Nshu", "Nushu"), ("Hmnp", "Nyiakeng_Puachue_Hmong"), ("Ogam", "Ogham"),
  ("Olck", "Ol_Chiki"), ("Onao", "Ol_Onal"), ("Hung", "Old_Hungarian"), ("Ital", "Old_Italic"),
  ("Narb", "Old_North_Arabian"), ("Perm", "Old_Permic"), ("Xpeo", "Old_Persian"),
  ("Sogo", "Old_Sogdian"), ("Sarb", "Old_South_Arabian"), ("Orkh", "Old_Turkic"),
  ("Ougr", "Old_Uyghur"), ("Orya", "Oriya"), ("Osge", "Osage"), ("Osma", "Osmanya"),
  ("Hmng", "Pahawh_Hmong"), ("Palm", "Palmyrene"), ("Pauc", "Pau_Cin_Hau"), ("Phag", "Phags_Pa"),
  ("Phnx", "Phoenician"), ("Phlp", "Psalter_Pahlavi"), ("Rjng", "Rejang"), ("Runr", "Runic"),
  ("Samr", "Samaritan"), ("Saur", "Saurashtra"), ("Shrd", "Sharada"), ("Shaw", "Shavian"),
  ("Sidd", "Siddham"), ("Sgnw", "SignWriting"), ("Sinh", "Sinhala"), ("Sogd", "Sogdian"),
  ("Sora", "Sora_Sompeng"), ("Soyo", "Soyombo"), ("Sund", "Sundanese"), ("Sunu", "Sunuwar"),
  ("Sylo", "Syloti_Nagri"), ("Syrc", "Syriac"), ("Tglg", "Tagalog"), ("Tagb", "Tagbanwa"),
  ("Tale", "Tai_Le"), ("Lana", "Tai_Tham"), ("Tavt", "Tai_Viet"), ("Takr", "Takri"),
  ("Taml", "Tamil"), ("Tnsa", "Tangsa"), ("Tang", "Tangut"), ("Telu", "Telugu"),
  ("Thaa", "Thaana"), ("Thai", "Thai"), ("Tibt", "Tibetan"), ("Tfng", "Tifinagh"),
  ("Tirh", "Tirhuta"), ("Todr", "Todhri"), ("Toto", "Toto"), ("Tutg", "Tulu_Tigalari"),
  ("Ugar", "Ugaritic"), ("Vaii", "Vai"), ("Vith", "Vithkuqi"), ("Wcho", "Wancho"),
  ("Wara", "Warang_Citi"), ("Yezi", "Yezidi"), ("Yiii", "Yi"), ("Zanb", "Zanabazar_Square")]

def ofScript (code : String) : CharRanges := scriptCodes.where (· == code)

def usedInScript (code : String) : CharRanges :=
  let shared := sharedCharacters.map fun (codes, distances) =>
    ((words codes.toList).contains code.toList, CharRanges.ofText distances)
  let others := (shared.filter (!·.1)).map (·.2)
  let own := (shared.filter (·.1)).map (·.2)
  (ofScript code \ .unions others) ∪ .unions own

end RestDispatch.Text
