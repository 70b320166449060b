import SeedStream.Unicode.Ranges

/-!
# Scripts

The Unicode property Script, version 16.0: each code point has a script, known
by a code of four letters and by one or two names.
-/

set_option autoImplicit false

namespace SeedStream.Unicode

/-- Runs of code points from U+0000 on: a length in base 36 and a script code each. -/
def scriptRuns : List String :=
  ["1tZyyyqLatn6ZyyyqLatn1bZyyy1LatnfZyyy1Latn5ZyyynLatn1ZyyyvLatn1ZyyychLatn13Zyyy5Latn5Zyyy2Bop",
    "okZyyy34Zinh4Grek1Zyyy3Grek2Zzzz4Grek1Zyyy1Grek4Zzzz1Grek1Zyyy1Grek1Zyyy3Grek1Zzzz1Grek1Zzzzk",
    "Grek1Zzzz1rGrekeCoptgGrek3pCyrl2Zinh4pCyrl1Zzzz12Armn2Zzzz1eArmn2Zzzz3Armn1Zzzz1jHebr8ZzzzrHe",
    "br4Zzzz6HebrbZzzz5Arab1Zyyy6Arab1ZyyyeArab1Zyyy3Arab1ZyyywArab1ZyyyaArabbZinhqArab1Zinh30Arab",
    "1ZyyyyArabeSyrc1Zzzz1oSyrc2Zzzz3Syrc1cArab1eThaaeZzzz1nNkoo2Zzzz3Nkoo1aSamr2ZzzzfSamr1ZzzzsMa",
    "nd2Zzzz1Mand1ZzzzbSyrc5ZzzzvArab1Zzzz2Arab5Zzzz23Arab1ZyyytArab29Deva4ZinhfDeva2ZyyyqDeva4Ben",
    "g1Zzzz8Beng2Zzzz2Beng2ZzzzmBeng1Zzzz7Beng1Zzzz1Beng3Zzzz4Beng2Zzzz9Beng2Zzzz2Beng2Zzzz4Beng8Z",
    "zzz1Beng4Zzzz2Beng1Zzzz5Beng2ZzzzpBeng2Zzzz3Guru1Zzzz6Guru4Zzzz2Guru2ZzzzmGuru1Zzzz7Guru1Zzzz",
    "2Guru1Zzzz2Guru1Zzzz2Guru2Zzzz1Guru1Zzzz5Guru4Zzzz2Guru2Zzzz3Guru3Zzzz1Guru7Zzzz4Guru1Zzzz1Gu",
    "ru7ZzzzhGuruaZzzz3Gujr1Zzzz9Gujr1Zzzz3Gujr1ZzzzmGujr1Zzzz7Gujr1Zzzz2Gujr1Zzzz5Gujr2ZzzzaGujr1",
    "Zzzz3Gujr1Zzzz3Gujr2Zzzz1GujrfZzzz4Gujr2ZzzzcGujr7Zzzz7Gujr1Zzzz3Orya1Zzzz8Orya2Zzzz2Orya2Zzz",
    "zmOrya1Zzzz7Orya1Zzzz2Orya1Zzzz5Orya2Zzzz9Orya2Zzzz2Orya2Zzzz3Orya7Zzzz3Orya4Zzzz2Orya1Zzzz5O",
    "rya2ZzzziOryaaZzzz2Taml1Zzzz6Taml3Zzzz3Taml1Zzzz4Taml3Zzzz2Taml1Zzzz1Taml1Zzzz2Taml3Zzzz2Taml",
    "3Zzzz3Taml3ZzzzcTaml4Zzzz5Taml3Zzzz3Taml1Zzzz4Taml2Zzzz1Taml6Zzzz1TamleZzzzlTaml5ZzzzdTelu1Zz",
    "zz3Telu1ZzzznTelu1ZzzzgTelu2Zzzz9Telu1Zzzz3Telu1Zzzz4Telu7Zzzz2Telu1Zzzz3Telu2Zzzz1Telu2Zzzz4",
    "Telu2ZzzzaTelu7Zzzz9TeludKnda1Zzzz3Knda1ZzzznKnda1ZzzzaKnda1Zzzz5Knda2Zzzz9Knda1Zzzz3Knda1Zzz",
    "z4Knda7Zzzz2Knda6Zzzz2Knda1Zzzz4Knda2ZzzzaKnda1Zzzz3KndacZzzzdMlym1Zzzz3Mlym1Zzzz1fMlym1Zzzz3",
    "Mlym1Zzzz6Mlym4ZzzzgMlym2ZzzzqMlym1Zzzz3Sinh1ZzzziSinh3ZzzzoSinh1Zzzz9Sinh1Zzzz1Sinh2Zzzz7Sin",
    "h3Zzzz1Sinh4Zzzz6Sinh1Zzzz1Sinh1Zzzz8Sinh6ZzzzaSinh2Zzzz3SinhcZzzz1mThai4Zzzz1ZyyysThai11Zzzz",
    "2Laoo1Zzzz1Laoo1Zzzz5Laoo1ZzzzoLaoo1Zzzz1Laoo1ZzzznLaoo2Zzzz5Laoo1Zzzz1Laoo1Zzzz7Laoo1ZzzzaLa",
    "oo2Zzzz4LaoowZzzz20Tibt1Zzzz10Tibt4Zzzz13Tibt1Zzzz10Tibt1ZzzzfTibt1Zzzz7Tibt4Zyyy2Tibt11Zzzz4",
    "gMymr12Geor1Zzzz1Geor5Zzzz1Geor2Zzzz17Geor1Zyyy4Geor74Hang21Ethi1Zzzz4Ethi2Zzzz7Ethi1Zzzz1Eth",
    "i1Zzzz4Ethi2Zzzz15Ethi1Zzzz4Ethi2ZzzzxEthi1Zzzz4Ethi2Zzzz7Ethi1Zzzz1Ethi1Zzzz4Ethi2ZzzzfEthi1",
    "Zzzz1lEthi1Zzzz4Ethi2Zzzz1vEthi2ZzzzwEthi3ZzzzqEthi6Zzzz2eCher2Zzzz6Cher2ZzzzhsCanstOgam3Zzzz",
    "23Runr3ZyyybRunr7ZzzzmTglg9Zzzz1TglglHano2Zyyy9ZzzzkBuhdcZzzzdTagb1Zzzz3Tagb1Zzzz2TagbcZzzz2m",
    "Khmr2ZzzzaKhmr6ZzzzaKhmr6Zzzz2Mong2Zyyy1Mong1ZyyykMong6Zzzz2hMong7Zzzz17Mong5Zzzz1yCansaZzzzv",
    "Limb1ZzzzcLimb4ZzzzcLimb4Zzzz1Limb3ZzzzcLimbuTale2Zzzz5TalebZzzz18Talu4ZzzzqTalu6ZzzzbTalu3Zz",
    "zz2TaluwKhmrsBugi2Zzzz2Bugi1rLana1ZzzztLana2ZzzzbLana6ZzzzaLana6ZzzzeLana2ZzzzvZinh1dZzzz25Ba",
    "li1Zzzz1eBali1sSund1gBatk8Zzzz4Batk1kLepc3ZzzzfLepc3Zzzz3Lepc1cOlckbCyrl5Zzzz17Geor2Zzzz3Geor",
    "8Sund8Zzzz3Zinh1ZyyydZinh1Zyyy7Zinh4Zyyy1Zinh6Zyyy1Zinh3Zyyy2Zinh1Zyyy5Zzzz12Latn5Grek1Cyrl1d",
    "Latn5Grek4Latn5GrekdLatn1Cyrl1yLatn1Grek1sZinh74LatnmGrek2Zzzz6Grek2Zzzz12Grek2Zzzz6Grek2Zzzz",
    "8Grek1Zzzz1Grek1Zzzz1Grek1Zzzz1Grek1ZzzzvGrek2Zzzz1hGrek1ZzzzfGrek1ZzzzeGrek2Zzzz6Grek1ZzzzjG",
    "rek2Zzzz3Grek1Zzzz9Grek1ZzzzcZyyy2Zinh2fZyyy1ZzzzbZyyy1Latn2ZzzzbZyyy1LatnfZyyy1ZzzzdLatn3Zzz",
    "zxZyyyfZzzzxZinhfZzzz12Zyyy1Grek3Zyyy2Latn6Zyyy1LatnrZyyy1LatnhZyyy15Latn3Zyyy4ZzzziiZyyymZzz",
    "zbZyyylZzzzpsZyyy74BraihgZyyy2ZzzzwZyyy1Zzzz2xZyyy2oGlagwLatn38Copt5Zzzz7Copt12Geor1Zzzz1Geor",
    "5Zzzz1Geor2Zzzz1kTfng7Zzzz2TfngeZzzz1TfngnEthi9Zzzz7Ethi1Zzzz7Ethi1Zzzz7Ethi1Zzzz7Ethi1Zzzz7E",
    "thi1Zzzz7Ethi1Zzzz7Ethi1Zzzz7Ethi1ZzzzwCyrl2mZyyyyZzzzqHani1Zzzz2hHanicZzzz5yHaniqZzzzlZyyy1H",
    "ani1Zyyy1HanipZyyy9Hani4Zinh2Hang8Zyyy4Hani4Zyyy1Zzzz2eHira2Zzzz2Zinh2Zyyy3Hira1Zyyy2iKana2Zy",
    "yy3Kana5Zzzz17Bopo1Zzzz2mHang1ZzzzgZyyywBopo12Zyyy9Zzzz1ZyyygKanavHang1Zzzz1sZyyyvHang29Zyyy1",
    "bKana1Zyyy2gKana4oZyyy534Hani1sZyyyg74HaniwdYiii3Zzzz1jYiii9Zzzz1cLisu8cVaiikZzzz2oCyrl2gBamu",
    "8ZzzzyZyyy2uLatn3Zyyy1vLatn2Zzzz2Latn1Zzzz1Latn1Zzzz8LatnlZzzzeLatn19Sylo3ZzzzaZyyy6Zzzz1kPha",
    "g8Zzzz1ySaur8ZzzzcSaur6ZzzzwDeva1aKali1Zyyy1Kali10RjngbZzzz1RjngtHang3Zzzz26Java1Zzzz1ZyyyaJa",
    "va4Zzzz2JavavMymr1Zzzz1jCham9ZzzzeCham2ZzzzaCham2Zzzz4ChamwMymr1vTavtoZzzz5TavtnMteiaZzzz6Eth",
    "i2Zzzz6Ethi2Zzzz6Ethi9Zzzz7Ethi1Zzzz7Ethi1Zzzz17Latn1Zyyy9Latn1Grek4Latn2Zyyy4Zzzz28Cher1aMte",
    "i2ZzzzaMtei6Zzzz8mcHangcZzzznHang4Zzzz1dHang6isZzzza6Hani2Zzzz2yHani12Zzzz7LatncZzzz5Armn5Zzz",
    "zqHebr1Zzzz5Hebr1Zzzz1Hebr1Zzzz2Hebr1Zzzz2Hebr1ZzzzaHebr37ArabgZzzza3Arab2Zyyy28Arab2Zzzz1iAr",
    "ab7Zzzz1ArabwZzzzgArabgZinhaZyyy6ZzzzeZinh2CyrlzZyyy1ZzzzjZyyy1Zzzz4Zyyy4Zzzz5Arab1Zzzz3rArab",
    "2Zzzz1Zyyy1ZzzzwZyyyqLatn6ZyyyqLatnbZyyyaKana1Zyyy19Kana2ZyyyvHang3Zzzz6Hang2Zzzz6Hang2Zzzz6H",
    "ang2Zzzz3Hang3Zzzz7Zyyy1Zzzz7ZyyyaZzzz5Zyyy2ZzzzcLinb1ZzzzqLinb1ZzzzjLinb1Zzzz2Linb1ZzzzfLinb",
    "2ZzzzeLinbyZzzz3fLinb5Zzzz3Zyyy4Zzzz19Zyyy3Zzzz9Zyyy27Grek1ZzzzdZyyy3Zzzz1Grek1bZzzz19Zyyy1Zi",
    "nh3mZzzztLyci3Zzzz1dCarifZzzz1ZinhrZyyy4Zzzz10Ital9Zzzz3ItalrGoth5Zzzz17Perm5ZzzzuUgar1Zzzz1U",
    "gar10Xpeo4ZzzzeXpeo16Zzzz28Dsrt1cShawuOsma2ZzzzaOsma6Zzzz10Osge4Zzzz10Osge4Zzzz14Elba8Zzzz1gA",
    "ghbbZzzz1AghbbVith1ZzzzfVith1Zzzz7Vith1Zzzz2Vith1ZzzzbVith1ZzzzfVith1Zzzz7Vith1Zzzz2Vith3Zzzz",
    "1gTodrcZzzz8nLina9ZzzzmLinaaZzzz8LinaoZzzz6Latn1Zzzz16Latn1Zzzz9Latn1xZzzz6Cprt2Zzzz1Cprt1Zzz",
    "z18Cprt1Zzzz2Cprt3Zzzz1Cprt2Zzzz1CprtmArmi1Zzzz9ArmiwPalmvNbat8Zzzz9Nbat1cZzzzjHatr1Zzzz2Hatr",
    "5Zzzz5HatrsPhnx3Zzzz1PhnxqLydi5Zzzz1Lydi1sZzzzwMerooMerc4ZzzzkMerc2Zzzz1aMerc4Khar1Zzzz2Khar5",
    "Zzzz8Khar1Zzzz3Khar1ZzzztKhar2Zzzz3Khar4ZzzzaKhar7Zzzz9Khar7ZzzzwSarbwNarbwZzzz13Mani4ZzzzcMa",
    "ni9Zzzz1iAvst3Zzzz7AvstmPrti2Zzzz8PrtijPhli5Zzzz8PhliiPhlp7Zzzz4PhlpcZzzz7Phlp28Zzzz21Orkh1jZ",
    "zzz1fHungdZzzz1fHung7Zzzz6Hung14Rohg8ZzzzaRohg6Zzzz12Gara3ZzzztGara8Zzzz2Gara5sZzzzvArab1Zzzz",
    "16Yezi1Zzzz3Yezi2Zzzz2YezigZzzz3Arab1jZzzz4Arab14Sogo8Zzzz16SogdmZzzzqOugr12ZzzzsChrskZzzznEl",
    "ym9Zzzz26Brah4Zzzz10Brah9Zzzz1Brah1vKthiaZzzz1Kthi2ZzzzpSora7ZzzzaSora6Zzzz1hCakm1ZzzziCakm8Z",
    "zzz13Mahj9Zzzz2oShrd1ZzzzkSinhbZzzziKhoj1Zzzz1bKhoj1qZzzz7Mult1Zzzz1Mult1Zzzz4Mult1ZzzzfMult1",
    "ZzzzbMult6Zzzz1nSind5ZzzzaSind6Zzzz4Gran1Zzzz8Gran2Zzzz2Gran2ZzzzmGran1Zzzz7Gran1Zzzz2Gran1Zz",
    "zz5Gran1Zzzz1Zinh9Gran2Zzzz2Gran2Zzzz3Gran2Zzzz1Gran6Zzzz1Gran5Zzzz7Gran2Zzzz7Gran3Zzzz5Granb",
    "ZzzzaTutg1Zzzz1Tutg2Zzzz1Tutg1Zzzz12Tutg1ZzzzaTutg1Zzzz1Tutg2Zzzz1Tutg1Zzzz4Tutg1ZzzzaTutg1Zz",
    "zz2Tutg8Zzzz2TutgtZzzz2kNewa1Zzzz5NewauZzzz20Tirh8ZzzzaTirh4mZzzz1iSidd2Zzzz12SiddyZzzz1xModi",
    "bZzzzaModi6ZzzzdMongjZzzz1mTakr6ZzzzaTakr6ZzzzkMymrsZzzzrAhom2ZzzzfAhom4ZzzznAhom55Zzzz1oDogr",
    "2sZzzz2bWaracZzzz1Wara7Diak2Zzzz1Diak2Zzzz8Diak1Zzzz2Diak1ZzzzuDiak1Zzzz2Diak2ZzzzcDiak9Zzzza",
    "Diak1yZzzz8Nand2Zzzz1aNand2ZzzzbNandrZzzz20Zanb8Zzzz2bSoyodZzzzgCans1lPauc7ZzzzaDeva52ZzzzySu",
    "nueZzzzaSunu6Zzzz9Bhks1Zzzz19Bhks1ZzzzeBhksaZzzztBhks3ZzzzwMarc2ZzzzmMarc1ZzzzeMarc21Zzzz7Gon",
    "m1Zzzz2Gonm1Zzzz18Gonm3Zzzz1Gonm1Zzzz2Gonm1Zzzz9Gonm8ZzzzaGonm6Zzzz6Gong1Zzzz2Gong1Zzzz11Gong",
    "1Zzzz2Gong1Zzzz6Gong7ZzzzaGong8mZzzzpMaka7ZzzzhKawi1Zzzz15Kawi3ZzzztKawi2dZzzz1LisufZzzz1eTam",
    "ldZzzz1TamlpmXsux2uZzzz33Xsux1Zzzz5XsuxbZzzz5gXsux218Zzzz2rCpmndZzzzuuEgypaZzzz32zEgyp5Zzzzg7",
    "Hluw5a1Zzzz1mGukh1c6ZzzzftBamu7ZzzzvMroo1ZzzzaMroo4Zzzz2Mroo27Tnsa1ZzzzaTnsa6ZzzzuBass2Zzzz6B",
    "assaZzzz1yHmngaZzzzaHmng1Zzzz7Hmng1ZzzzlHmng5ZzzzjHmngc0Zzzz1mKrai5iZzzz2jMedf2tZzzz23Plrd4Zz",
    "zz1lPlrd7ZzzzhPlrd1sZzzz1Tang1Nshu2Hani1KitsbZzzz2HanieZzzz4qgTang8ZzzzlcTangd2Kits15Zzzz1Kit",
    "s9Tang6w7Zzzz4Kana1Zzzz7Kana1Zzzz2Kana1Zzzz1Kana7zHira3KanafZzzz1HiratZzzz3Hira2Zzzz1KanaeZzz",
    "z4Kana8Zzzzb0Nshu1s4Zzzz2zDupl5ZzzzdDupl3Zzzz9Dupl7ZzzzaDupl2Zzzz4Dupl4Zyyy318Zzzz6yZyyy6Zzzz",
    "c4Zyyy24Zzzz1aZinh2ZzzznZinh9Zzzz38Zyyy1oZzzz6uZyyyaZzzz13Zyyy2Zzzz1qZyyy3ZinhhZyyy8Zinh2Zyyy",
    "7ZinhuZyyy4Zinh1pZyyylZzzz1yGrek3eZzzzkZyyycZzzzkZyyycZzzz2fZyyy9ZzzzpZyyy3rZzzz2dZyyy1Zzzz1z",
    "Zyyy1Zzzz2Zyyy2Zzzz1Zyyy2Zzzz2Zyyy2Zzzz4Zyyy1ZzzzcZyyy1Zzzz1Zyyy1Zzzz7Zyyy1Zzzz1tZyyy1Zzzz4Zy",
    "yy2Zzzz8Zyyy1Zzzz7Zyyy1ZzzzsZyyy1Zzzz4Zyyy1Zzzz5Zyyy1Zzzz1Zyyy3Zzzz7Zyyy1Zzzz9gZyyy2Zzzz84Zyy",
    "y2Zzzz1eZyyyi4SgnwfZzzz5Sgnw1ZzzzfSgnwuoZzzzvLatn6Zzzz6Latn5xZzzz7Glag1ZzzzhGlag2Zzzz7Glag1Zz",
    "zz2Glag1Zzzz5Glag5Zzzz1qCyrlxZzzz1Cyrl34Zzzz19Hmnp3ZzzzeHmnp2ZzzzaHmnp4Zzzz2Hmnp8wZzzzvTotohZ",
    "zzz1mWcho5Zzzz1WchocwZzzz16Nagm5yZzzz17Onao4Zzzz1OnaodcZzzz7Ethi1Zzzz4Ethi1Zzzz2Ethi1ZzzzfEth",
    "i1Zzzz5hMend2ZzzzgMend15Zzzz24Adlm4ZzzzaAdlm4Zzzz2AdlmltZzzz1wZyyy24Zzzz1pZyyy5eZzzz4Arab1Zzz",
    "zrArab1Zzzz2Arab1Zzzz1Arab2Zzzz1Arab1ZzzzaArab1Zzzz4Arab1Zzzz1Arab1Zzzz1Arab6Zzzz1Arab4Zzzz1A",
    "rab1Zzzz1Arab1Zzzz1Arab1Zzzz3Arab1Zzzz2Arab1Zzzz1Arab2Zzzz1Arab1Zzzz1Arab1Zzzz1Arab1Zzzz1Arab",
    "1Zzzz1Arab1Zzzz2Arab1Zzzz1Arab2Zzzz4Arab1Zzzz7Arab1Zzzz4Arab1Zzzz4Arab1Zzzz1Arab1ZzzzaArab1Zz",
    "zzhArab5Zzzz3Arab1Zzzz5Arab1ZzzzhArab1gZzzz2Arab7iZzzz18Zyyy4Zzzz2sZyyycZzzzfZyyy2ZzzzfZyyy1Z",
    "zzzfZyyy1Zzzz11ZyyyaZzzz4uZyyy1kZzzzqZyyy1Hira2ZyyydZzzz18Zyyy4Zzzz9Zyyy7Zzzz2ZyyyeZzzz6Zyyy4",
    "aZzzzrcZyyy4ZzzzhZyyy3ZzzzdZyyy3Zzzz3bZyyy4Zzzz2nZyyy6ZzzzcZyyy4Zzzz1ZyyyfZzzzcZyyy4Zzzz1kZyy",
    "y8ZzzzaZyyy6Zzzz14Zyyy8ZzzzuZyyy2ZzzzcZyyy4Zzzz2Zyyy1qZzzz9gZyyycZzzzeZyyy2ZzzzdZyyy3ZzzzaZyy",
    "y5Zzzz1kZyyy7ZzzzfZyyy2ZzzzbZyyy6Zzzz9Zyyy7Zzzz43Zyyy1Zzzz2uZyyysmZzzzwyoHaniwZzzz37eHani6Zzz",
    "z66Hani2Zzzz4g2HanieZzzz5rlHanifZzzzhaHani1wiZzzzf2Hani15uZzzz3t7Hani5Zzzz38gHanif975Zzzz1Zyy",
    "yuZzzz2oZyyy3kZzzz6oZinh47bkZzzz"]

/-- Script codes and their names, with blanks between scripts. -/
def scriptNames : List String :=
  ["Adlm=Adlam Aghb=Caucasian_Albanian Ahom Arab=Arabic Armi=Imperial_Aramaic Armn=Armenian Avst=",
    "Avestan Bali=Balinese Bamu=Bamum Bass=Bassa_Vah Batk=Batak Beng=Bengali Bhks=Bhaiksuki Bopo=B",
    "opomofo Brah=Brahmi Brai=Braille Bugi=Buginese Buhd=Buhid Cakm=Chakma Cans=Canadian_Aborigina",
    "l Cari=Carian Cham Cher=Cherokee Chrs=Chorasmian Copt=Coptic=Qaac Cpmn=Cypro_Minoan Cprt=Cypr",
    "iot Cyrl=Cyrillic Deva=Devanagari Diak=Dives_Akuru Dogr=Dogra Dsrt=Deseret Dupl=Duployan Egyp",
    "=Egyptian_Hieroglyphs Elba=Elbasan Elym=Elymaic Ethi=Ethiopic Gara=Garay Geor=Georgian Glag=G",
    "lagolitic Gong=Gunjala_Gondi Gonm=Masaram_Gondi Goth=Gothic Gran=Grantha Grek=Greek Gujr=Guja",
    "rati Gukh=Gurung_Khema Guru=Gurmukhi Hang=Hangul Hani=Han Hano=Hanunoo Hatr=Hatran Hebr=Hebre",
    "w Hira=Hiragana Hluw=Anatolian_Hieroglyphs Hmng=Pahawh_Hmong Hmnp=Nyiakeng_Puachue_Hmong Hung",
    "=Old_Hungarian Ital=Old_Italic Java=Javanese Kali=Kayah_Li Kana=Katakana Kawi Khar=Kharoshthi",
    " Khmr=Khmer Khoj=Khojki Kits=Khitan_Small_Script Knda=Kannada Krai=Kirat_Rai Kthi=Kaithi Lana",
    "=Tai_Tham Laoo=Lao Latn=Latin Lepc=Lepcha Limb=Limbu Lina=Linear_A Linb=Linear_B Lisu Lyci=Ly",
    "cian Lydi=Lydian Mahj=Mahajani Maka=Makasar Mand=Mandaic Mani=Manichaean Marc=Marchen Medf=Me",
    "defaidrin Mend=Mende_Kikakui Merc=Meroitic_Cursive Mero=Meroitic_Hieroglyphs Mlym=Malayalam M",
    "odi Mong=Mongolian Mroo=Mro Mtei=Meetei_Mayek Mult=Multani Mymr=Myanmar Nagm=Nag_Mundari Nand",
    "=Nandinagari Narb=Old_North_Arabian Nbat=Nabataean Newa Nkoo=Nko Nshu=Nushu Ogam=Ogham Olck=O",
    "l_Chiki Onao=Ol_Onal Orkh=Old_Turkic Orya=Oriya Osge=Osage Osma=Osmanya Ougr=Old_Uyghur Palm=",
    "Palmyrene Pauc=Pau_Cin_Hau Perm=Old_Permic Phag=Phags_Pa Phli=Inscriptional_Pahlavi Phlp=Psal",
    "ter_Pahlavi Phnx=Phoenician Plrd=Miao Prti=Inscriptional_Parthian Rjng=Rejang Rohg=Hanifi_Roh",
    "ingya Runr=Runic Samr=Samaritan Sarb=Old_South_Arabian Saur=Saurashtra Sgnw=SignWriting Shaw=",
    "Shavian Shrd=Sharada Sidd=Siddham Sind=Khudawadi Sinh=Sinhala Sogd=Sogdian Sogo=Old_Sogdian S",
    "ora=Sora_Sompeng Soyo=Soyombo Sund=Sundanese Sunu=Sunuwar Sylo=Syloti_Nagri Syrc=Syriac Tagb=",
    "Tagbanwa Takr=Takri Tale=Tai_Le Talu=New_Tai_Lue Taml=Tamil Tang=Tangut Tavt=Tai_Viet Telu=Te",
    "lugu Tfng=Tifinagh Tglg=Tagalog Thaa=Thaana Thai Tibt=Tibetan Tirh=Tirhuta Tnsa=Tangsa Todr=T",
    "odhri Toto Tutg=Tulu_Tigalari Ugar=Ugaritic Vaii=Vai Vith=Vithkuqi Wara=Warang_Citi Wcho=Wanc",
    "ho Xpeo=Old_Persian Xsux=Cuneiform Yezi=Yezidi Yiii=Yi Zanb=Zanabazar_Square Zinh=Inherited=Q",
    "aai Zyyy=Common Zzzz=Unknown"]

def scriptTable : Array (Nat × String) :=
  decodeRuns 4 (String.join scriptRuns)

def scripts : List (List String) :=
  (((String.join scriptNames).splitToList (· == ' ')).map fun s => s.splitToList (· == '='))

def withScript (code : String) : List (Nat × Nat) :=
  runsWhere scriptTable (· == code)

end SeedStream.Unicode
