import RelationQuery.Text.Runs

/-!
# Scripts

The property Script by the four-letter codes of the scripts, and the property Script_Extensions,
which gives several scripts to a character that is shared among them.
-/

namespace RelationQuery.Text.Script

/-- The codes of the scripts, each with its other names in small letters. -/
def names : List (List String) :=
  (entries [
  "Adlm.adlam Aghb.caucasianalbanian Ahom Arab.arabic Armi.imperialaramaic Armn.armenian",
  "Avst.avestan Bali.balinese Bamu.bamum Bass.bassavah Batk.batak Beng.bengali Bhks.bhaiksuki",
  "Bopo.bopomofo Brah.brahmi Brai.braille Bugi.buginese Buhd.buhid Cakm.chakma",
  "Cans.canadianaboriginal Cari.carian Cham Cher.cherokee Chrs.chorasmian Copt.coptic.qaac",
  "Cpmn.cyprominoan Cprt.cypriot Cyrl.cyrillic Deva.devanagari Diak.divesakuru Dogr.dogra",
  "Dsrt.deseret Dupl.duployan Egyp.egyptianhieroglyphs Elba.elbasan Elym.elymaic Ethi.ethiopic",
  "Gara.garay Geor.georgian Glag.glagolitic Gong.gunjalagondi Gonm.masaramgondi Goth.gothic",
  "Gran.grantha Grek.greek Gujr.gujarati Gukh.gurungkhema Guru.gurmukhi Hang.hangul Hani.han",
  "Hano.hanunoo Hatr.hatran Hebr.hebrew Hira.hiragana Hluw.anatolianhieroglyphs Hmng.pahawhhmong",
  "Hmnp.nyiakengpuachuehmong Hung.oldhungarian Ital.olditalic Java.javanese Kali.kayahli",
  "Kana.katakana Kawi Khar.kharoshthi Khmr.khmer Khoj.khojki Kits.khitansmallscript Knda.kannada",
  "Krai.kiratrai Kthi.kaithi Lana.taitham Laoo.lao Latn.latin Lepc.lepcha Limb.limbu Lina.lineara",
  "Linb.linearb Lisu Lyci.lycian Lydi.lydian Mahj.mahajani Maka.makasar Mand.mandaic",
  "Mani.manichaean Marc.marchen Medf.medefaidrin Mend.mendekikakui Merc.meroiticcursive",
  "Mero.meroitichieroglyphs Mlym.malayalam Modi Mong.mongolian Mroo.mro Mtei.meeteimayek",
  "Mult.multani Mymr.myanmar Nagm.nagmundari Nand.nandinagari Narb.oldnortharabian Nbat.nabataean",
  "Newa Nkoo.nko Nshu.nushu Ogam.ogham Olck.olchiki Onao.olonal Orkh.oldturkic Orya.oriya",
  "Osge.osage Osma.osmanya Ougr.olduyghur Palm.palmyrene Pauc.paucinhau Perm.oldpermic",
  "Phag.phagspa Phli.inscriptionalpahlavi Phlp.psalterpahlavi Phnx.phoenician Plrd.miao",
  "Prti.inscriptionalparthian Rjng.rejang Rohg.hanifirohingya Runr.runic Samr.samaritan",
  "Sarb.oldsoutharabian Saur.saurashtra Sgnw.signwriting Shaw.shavian Shrd.sharada Sidd.siddham",
  "Sind.khudawadi Sinh.sinhala Sogd.sogdian Sogo.oldsogdian Sora.sorasompeng Soyo.soyombo",
  "Sund.sundanese Sunu.sunuwar Sylo.sylotinagri Syrc.syriac Tagb.tagbanwa Takr.takri Tale.taile",
  "Talu.newtailue Taml.tamil Tang.tangut Tavt.taiviet Telu.telugu Tfng.tifinagh Tglg.tagalog",
  "Thaa.thaana Thai Tibt.tibetan Tirh.tirhuta Tnsa.tangsa Todr.todhri Toto Tutg.tulutigalari",
  "Ugar.ugaritic Vaii.vai Vith.vithkuqi Wara.warangciti Wcho.wancho Xpeo.oldpersian",
  "Xsux.cuneiform Yezi.yezidi Yiii.yi Zanb.zanabazarsquare Zinh.inherited.qaai Zyyy.common"]).map
    fun entry => (entry.splitOnP (· == '.')).map String.ofList

def codeOf? (name : String) : Option String := do
  let script ← names.find? fun script =>
    script.any fun other => String.ofList (other.toList.map Char.toLower) == name
  script.head?

def table : RunTable String := .ofCodes [
  "Zyyy41Latn1aZyyy6Latn1aZyyy2fLatnZyyyfLatnZyyy5Latn17ZyyyLatn1fZyyyLatn1c1Zyyy27Latn5Zyyy5",
  "Bopo2Zyyy14Zinh70Grek4ZyyyGrek3Zzzz2Grek4ZyyyGrekZzzz4GrekZyyyGrekZyyyGrek3ZzzzGrekZzzzGrek14",
  "ZzzzGrek3fCopteGrek10Cyrl85Zinh2Cyrla9ZzzzArmn26Zzzz2Armn32Zzzz2Armn3ZzzzHebr37Zzzz8Hebr1b",
  "Zzzz4Hebr6ZzzzbArab5ZyyyArab6ZyyyArabeZyyyArab3ZyyyArab20ZyyyArabaZinhbArab1aZinhArab6cZyyy",
  "Arab22SyrceZzzzSyrc3cZzzz2Syrc3Arab30Thaa32ZzzzeNkoo3bZzzz2Nkoo3Samr2eZzzz2SamrfZzzzMand1c",
  "Zzzz2MandZzzzSyrcbZzzz5Arab1fZzzzArab2Zzzz5Arab4bZyyyArab1dDeva51Zinh4DevafZyyy2Deva1aBeng4",
  "ZzzzBeng8Zzzz2Beng2Zzzz2Beng16ZzzzBeng7ZzzzBengZzzz3Beng4Zzzz2Beng9Zzzz2Beng2Zzzz2Beng4Zzzz8",
  "BengZzzz4Beng2ZzzzBeng5Zzzz2Beng19Zzzz2Guru3ZzzzGuru6Zzzz4Guru2Zzzz2Guru16ZzzzGuru7ZzzzGuru2",
  "ZzzzGuru2ZzzzGuru2Zzzz2GuruZzzzGuru5Zzzz4Guru2Zzzz2Guru3Zzzz3GuruZzzz7Guru4ZzzzGuruZzzz7",
  "Guru11ZzzzaGujr3ZzzzGujr9ZzzzGujr3ZzzzGujr16ZzzzGujr7ZzzzGujr2ZzzzGujr5Zzzz2GujraZzzzGujr3",
  "ZzzzGujr3Zzzz2GujrZzzzfGujr4Zzzz2GujrcZzzz7Gujr7ZzzzOrya3ZzzzOrya8Zzzz2Orya2Zzzz2Orya16Zzzz",
  "Orya7ZzzzOrya2ZzzzOrya5Zzzz2Orya9Zzzz2Orya2Zzzz2Orya3Zzzz7Orya3Zzzz4Orya2ZzzzOrya5Zzzz2Orya12",
  "ZzzzaTaml2ZzzzTaml6Zzzz3Taml3ZzzzTaml4Zzzz3Taml2ZzzzTamlZzzzTaml2Zzzz3Taml2Zzzz3Taml3Zzzz3",
  "TamlcZzzz4Taml5Zzzz3Taml3ZzzzTaml4Zzzz2TamlZzzz6TamlZzzzeTaml15Zzzz5TeludZzzzTelu3ZzzzTelu17",
  "ZzzzTelu10Zzzz2Telu9ZzzzTelu3ZzzzTelu4Zzzz7Telu2ZzzzTelu3Zzzz2TeluZzzz2Telu4Zzzz2TeluaZzzz7",
  "Telu9KndadZzzzKnda3ZzzzKnda17ZzzzKndaaZzzzKnda5Zzzz2Knda9ZzzzKnda3ZzzzKnda4Zzzz7Knda2Zzzz6",
  "Knda2ZzzzKnda4Zzzz2KndaaZzzzKnda3ZzzzcMlymdZzzzMlym3ZzzzMlym33ZzzzMlym3ZzzzMlym6Zzzz4Mlym10",
  "Zzzz2Mlym1aZzzzSinh3ZzzzSinh12Zzzz3Sinh18ZzzzSinh9ZzzzSinhZzzz2Sinh7Zzzz3SinhZzzz4Sinh6Zzzz",
  "SinhZzzzSinh8Zzzz6SinhaZzzz2Sinh3ZzzzcThai3aZzzz4ZyyyThai1cZzzz25Laoo2ZzzzLaooZzzzLaoo5Zzzz",
  "Laoo18ZzzzLaooZzzzLaoo17Zzzz2Laoo5ZzzzLaooZzzzLaoo7ZzzzLaooaZzzz2Laoo4Zzzz20Tibt48ZzzzTibt24",
  "Zzzz4Tibt27ZzzzTibt24ZzzzTibtfZzzzTibt7Zyyy4Tibt2Zzzz25Mymra0Geor26ZzzzGeorZzzz5GeorZzzz2",
  "Geor2bZyyyGeor4Hang100Ethi49ZzzzEthi4Zzzz2Ethi7ZzzzEthiZzzzEthi4Zzzz2Ethi29ZzzzEthi4Zzzz2",
  "Ethi21ZzzzEthi4Zzzz2Ethi7ZzzzEthiZzzzEthi4Zzzz2EthifZzzzEthi39ZzzzEthi4Zzzz2Ethi43Zzzz2Ethi20",
  "Zzzz3Ethi1aZzzz6Cher56Zzzz2Cher6Zzzz2Cans280Ogam1dZzzz3Runr4bZyyy3RunrbZzzz7Tglg16Zzzz9Tglg",
  "Hano15Zyyy2Zzzz9Buhd14ZzzzcTagbdZzzzTagb3ZzzzTagb2ZzzzcKhmr5eZzzz2KhmraZzzz6KhmraZzzz6Mong2",
  "Zyyy2MongZyyyMong14Zzzz6Mong59Zzzz7Mong2bZzzz5Cans46ZzzzaLimb1fZzzzLimbcZzzz4LimbcZzzz4Limb",
  "Zzzz3LimbcTale1eZzzz2Tale5ZzzzbTalu2cZzzz4Talu1aZzzz6TalubZzzz3Talu2Khmr20Bugi1cZzzz2Bugi2",
  "Lana3fZzzzLana1dZzzz2LanabZzzz6LanaaZzzz6LanaeZzzz2Zinh1fZzzz31Bali4dZzzzBali32Sund40Batk34",
  "Zzzz8Batk4Lepc38Zzzz3LepcfZzzz3Lepc3Olck30CyrlbZzzz5Geor2bZzzz2Geor3Sund8Zzzz8Zinh3ZyyyZinhd",
  "ZyyyZinh7Zyyy4ZinhZyyy6ZinhZyyy3Zinh2ZyyyZzzz5Latn26Grek5CyrlLatn31Grek5Latn4Grek5LatndCyrl",
  "Latn46GrekZinh40Latn100Grek16Zzzz2Grek6Zzzz2Grek26Zzzz2Grek6Zzzz2Grek8ZzzzGrekZzzzGrekZzzz",
  "GrekZzzzGrek1fZzzz2Grek35ZzzzGrekfZzzzGrekeZzzz2Grek6ZzzzGrek13Zzzz2Grek3ZzzzGrek9ZzzzZyyyc",
  "Zinh2Zyyy57ZzzzZyyybLatnZzzz2ZyyybLatnZyyyfZzzzLatndZzzz3Zyyy21ZzzzfZinh21ZzzzfZyyy26Grek",
  "Zyyy3Latn2Zyyy6LatnZyyy1bLatnZyyy11Latn29Zyyy3Zzzz4Zyyy29aZzzz16ZyyybZzzz15Zyyy3a0Brai100",
  "Zyyy274Zzzz2Zyyy20ZzzzZyyy69Glag60Latn20Copt74Zzzz5Copt7Geor26ZzzzGeorZzzz5GeorZzzz2Tfng38",
  "Zzzz7Tfng2ZzzzeTfngEthi17Zzzz9Ethi7ZzzzEthi7ZzzzEthi7ZzzzEthi7ZzzzEthi7ZzzzEthi7ZzzzEthi7Zzzz",
  "Ethi7ZzzzCyrl20Zyyy5eZzzz22Hani1aZzzzHani59ZzzzcHanid6Zzzz1aZyyy15HaniZyyyHaniZyyy19Hani9",
  "Zinh4Hang2Zyyy8Hani4Zyyy4ZzzzHira56Zzzz2Zinh2Zyyy2Hira3ZyyyKana5aZyyy2Kana3Zzzz5Bopo2bZzzz",
  "Hang5eZzzzZyyy10Bopo20Zyyy26Zzzz9ZyyyKana10Hang1fZzzzZyyy40Hang1fZyyy51Kana2fZyyyKana58Zyyya8",
  "Hani19c0Zyyy40Hani5200Yiii48dZzzz3Yiii37Zzzz9Lisu30Vaii12cZzzz14Cyrl60Bamu58Zzzz8Zyyy22Latn66",
  "Zyyy3Latn43Zzzz2Latn2ZzzzLatnZzzzLatn8Zzzz15LatneSylo2dZzzz3ZyyyaZzzz6Phag38Zzzz8Saur46Zzzz8",
  "SaurcZzzz6Deva20Kali2eZyyyKaliRjng24ZzzzbRjngHang1dZzzz3Java4eZzzzZyyyJavaaZzzz4Java2Mymr1f",
  "ZzzzCham37Zzzz9ChameZzzz2ChamaZzzz2Cham4Mymr20Tavt43Zzzz18Tavt5Mtei17ZzzzaEthi6Zzzz2Ethi6",
  "Zzzz2Ethi6Zzzz9Ethi7ZzzzEthi7ZzzzLatn2bZyyyLatn9GrekLatn4Zyyy2Zzzz4Cher50Mtei2eZzzz2Mteia",
  "Zzzz6Hang2ba4ZzzzcHang17Zzzz4Hang31Zzzz2104Hani16eZzzz2Hani6aZzzz26Latn7ZzzzcArmn5Zzzz5Hebr1a",
  "ZzzzHebr5ZzzzHebrZzzzHebr2ZzzzHebr2ZzzzHebraArab73Zzzz10Arab16bZyyy2Arab50Zzzz2Arab36Zzzz7",
  "ArabZzzz20Arab10Zinh10ZyyyaZzzz6ZinheCyrl2Zyyy23ZzzzZyyy13ZzzzZyyy4Zzzz4Arab5ZzzzArab87Zzzz2",
  "ZyyyZzzzZyyy20Latn1aZyyy6Latn1aZyyybKanaaZyyyKana2dZyyy2Hang1fZzzz3Hang6Zzzz2Hang6Zzzz2Hang6",
  "Zzzz2Hang3Zzzz3Zyyy7ZzzzZyyy7ZzzzaZyyy5Zzzz2LinbcZzzzLinb1aZzzzLinb13ZzzzLinb2ZzzzLinbfZzzz2",
  "LinbeZzzz22Linb7bZzzz5Zyyy3Zzzz4Zyyy2dZzzz3Zyyy9Grek4fZzzzZyyydZzzz3GrekZzzz2fZyyy2dZinh",
  "Zzzz82Lyci1dZzzz3Cari31ZzzzfZinhZyyy1bZzzz4Ital24Zzzz9Ital3Goth1bZzzz5Perm2bZzzz5Ugar1eZzzz",
  "UgarXpeo24Zzzz4XpeoeZzzz2aDsrt50Shaw30Osma1eZzzz2OsmaaZzzz6Osge24Zzzz4Osge24Zzzz4Elba28Zzzz8",
  "Aghb34ZzzzbAghbVithbZzzzVithfZzzzVith7ZzzzVith2ZzzzVithbZzzzVithfZzzzVith7ZzzzVith2Zzzz3",
  "Todr34ZzzzcLina137Zzzz9Lina16ZzzzaLina8Zzzz18Latn6ZzzzLatn2aZzzzLatn9Zzzz45Cprt6Zzzz2CprtZzzz",
  "Cprt2cZzzzCprt2Zzzz3CprtZzzz2CprtArmi16ZzzzArmi9Palm20Nbat1fZzzz8Nbat9Zzzz30Hatr13ZzzzHatr2",
  "Zzzz5Hatr5Phnx1cZzzz3PhnxLydi1aZzzz5LydiZzzz40Mero20Merc18Zzzz4Merc14Zzzz2Merc2eKhar4Zzzz",
  "Khar2Zzzz5Khar8ZzzzKhar3ZzzzKhar1dZzzz2Khar3Zzzz4KharaZzzz7Khar9Zzzz7Sarb20Narb20Zzzz20Mani27",
  "Zzzz4ManicZzzz9Avst36Zzzz3Avst7Prti16Zzzz2Prti8Phli13Zzzz5Phli8Phlp12Zzzz7Phlp4ZzzzcPhlp7",
  "Zzzz50Orkh49Zzzz37Hung33ZzzzdHung33Zzzz7Hung6Rohg28Zzzz8RohgaZzzz6Gara26Zzzz3Gara1dZzzz8Gara2",
  "Zzzzd0Arab1fZzzzYezi2aZzzzYezi3Zzzz2Yezi2Zzzz10Arab3Zzzz37Arab4Sogo28Zzzz8Sogd2aZzzz16Ougr1a",
  "Zzzz26Chrs1cZzzz14Elym17Zzzz9Brah4eZzzz4Brah24Zzzz9BrahKthi43ZzzzaKthiZzzz2Sora19Zzzz7Soraa",
  "Zzzz6Cakm35ZzzzCakm12Zzzz8Mahj27Zzzz9Shrd60ZzzzSinh14ZzzzbKhoj12ZzzzKhoj2fZzzz3eMult7ZzzzMult",
  "ZzzzMult4ZzzzMultfZzzzMultbZzzz6Sind3bZzzz5SindaZzzz6Gran4ZzzzGran8Zzzz2Gran2Zzzz2Gran16Zzzz",
  "Gran7ZzzzGran2ZzzzGran5ZzzzZinhGran9Zzzz2Gran2Zzzz2Gran3Zzzz2GranZzzz6GranZzzz5Gran7Zzzz2",
  "Gran7Zzzz3Gran5ZzzzbTutgaZzzzTutgZzzz2TutgZzzzTutg26ZzzzTutgaZzzzTutgZzzz2TutgZzzzTutg4Zzzz",
  "TutgaZzzzTutg2Zzzz8Tutg2Zzzz1dNewa5cZzzzNewa5Zzzz1eTirh48Zzzz8TirhaZzzza6Sidd36Zzzz2Sidd26",
  "Zzzz22Modi45ZzzzbModiaZzzz6MongdZzzz13Takr3aZzzz6TakraZzzz6Mymr14Zzzz1cAhom1bZzzz2AhomfZzzz4",
  "Ahom17Zzzzb9Dogr3cZzzz64Wara53ZzzzcWaraDiak7Zzzz2DiakZzzz2Diak8ZzzzDiak2ZzzzDiak1eZzzzDiak2",
  "Zzzz2DiakcZzzz9DiakaZzzz46Nand8Zzzz2Nand2eZzzz2NandbZzzz1bZanb48Zzzz8Soyo53ZzzzdCans10Pauc39",
  "Zzzz7DevaaZzzzb6Sunu22ZzzzeSunuaZzzz6Bhks9ZzzzBhks2dZzzzBhkseZzzzaBhks1dZzzz3Marc20Zzzz2",
  "Marc16ZzzzMarceZzzz49Gonm7ZzzzGonm2ZzzzGonm2cZzzz3GonmZzzzGonm2ZzzzGonm9Zzzz8GonmaZzzz6Gong6",
  "ZzzzGong2ZzzzGong25ZzzzGong2ZzzzGong6Zzzz7GongaZzzz136Maka19Zzzz7Kawi11ZzzzKawi29Zzzz3Kawi1d",
  "Zzzz55LisuZzzzfTaml32ZzzzdTamlXsux39aZzzz66Xsux6fZzzzXsux5ZzzzbXsuxc4Zzzza4cCpmn63Zzzzd",
  "Egyp456ZzzzaEgypf9bZzzz5Hluw247Zzzz1ab9Gukh3aZzzz6c6Bamu239Zzzz7Mroo1fZzzzMrooaZzzz4Mroo2",
  "Tnsa4fZzzzTnsaaZzzz6Bass1eZzzz2Bass6ZzzzaHmng46ZzzzaHmngaZzzzHmng7ZzzzHmng15Zzzz5Hmng13",
  "Zzzz1b0Krai3aZzzzc6Medf5bZzzz65Plrd4bZzzz4Plrd39Zzzz7Plrd11Zzzz40TangNshuHani2KitsZzzzbHani2",
  "ZzzzeTang17f8Zzzz8Tang300Kits1d6Zzzz29KitsTang9Zzzz22e7Kana4ZzzzKana7ZzzzKana2ZzzzKanaHira11f",
  "Kana3ZzzzfHiraZzzz1dHira3Zzzz2KanaZzzzeKana4Zzzz8Nshu18cZzzz904Dupl6bZzzz5DupldZzzz3Dupl9",
  "Zzzz7DuplaZzzz2Dupl4Zyyy4Zzzzf5cZyyyfaZzzz6Zyyy1b4Zzzz4cZinh2eZzzz2Zinh17Zzzz9Zyyy74Zzzz3c",
  "Zyyyf6ZzzzaZyyy27Zzzz2Zyyy3eZinh3Zyyy11Zinh8Zyyy2Zinh7Zyyy1eZinh4Zyyy3dZzzz15Grek46Zzzz7a",
  "Zyyy14ZzzzcZyyy14ZzzzcZyyy57Zzzz9Zyyy19Zzzz87Zyyy55ZzzzZyyy47ZzzzZyyy2Zzzz2ZyyyZzzz2Zyyy2",
  "Zzzz2Zyyy4ZzzzZyyycZzzzZyyyZzzzZyyy7ZzzzZyyy41ZzzzZyyy4Zzzz2Zyyy8ZzzzZyyy7ZzzzZyyy1cZzzzZyyy4",
  "ZzzzZyyy5ZzzzZyyyZzzz3Zyyy7ZzzzZyyy154Zzzz2Zyyy124Zzzz2Zyyy32Sgnw28cZzzzfSgnw5ZzzzSgnwf",
  "Zzzz450Latn1fZzzz6Latn6Zzzzd5Glag7ZzzzGlag11Zzzz2Glag7ZzzzGlag2ZzzzGlag5Zzzz5Cyrl3eZzzz21Cyrl",
  "Zzzz70Hmnp2dZzzz3HmnpeZzzz2HmnpaZzzz4Hmnp2Zzzz140Toto1fZzzz11Wcho3aZzzz5WchoZzzz1d0Nagm2a",
  "Zzzzd6Onao2bZzzz4OnaoZzzz1e0Ethi7ZzzzEthi4ZzzzEthi2ZzzzEthifZzzzMendc5Zzzz2Mend10Zzzz29Adlm4c",
  "Zzzz4AdlmaZzzz4Adlm2Zzzz311Zyyy44Zzzz4cZyyy3dZzzzc2Arab4ZzzzArab1bZzzzArab2ZzzzArabZzzz2Arab",
  "ZzzzArabaZzzzArab4ZzzzArabZzzzArabZzzz6ArabZzzz4ArabZzzzArabZzzzArabZzzzArab3ZzzzArab2Zzzz",
  "ArabZzzz2ArabZzzzArabZzzzArabZzzzArabZzzzArabZzzzArab2ZzzzArabZzzz2Arab4ZzzzArab7ZzzzArab4",
  "ZzzzArab4ZzzzArabZzzzArabaZzzzArab11Zzzz5Arab3ZzzzArab5ZzzzArab11Zzzz34Arab2Zzzz10eZyyy2c",
  "Zzzz4Zyyy64ZzzzcZyyyfZzzz2ZyyyfZzzzZyyyfZzzzZyyy25ZzzzaZyyyaeZzzz38Zyyy1aHiraZyyy2ZzzzdZyyy2c",
  "Zzzz4Zyyy9Zzzz7Zyyy2ZzzzeZyyy6Zzzz9aZyyy3d8Zzzz4Zyyy11Zzzz3ZyyydZzzz3Zyyy77Zzzz4Zyyy5fZzzz6",
  "ZyyycZzzz4ZyyyZzzzfZyyycZzzz4Zyyy38Zzzz8ZyyyaZzzz6Zyyy28Zzzz8Zyyy1eZzzz2ZyyycZzzz4Zyyy2Zzzz3e",
  "Zyyy154ZzzzcZyyyeZzzz2ZyyydZzzz3ZyyyaZzzz5Zyyy38Zzzz7ZyyyfZzzz2ZyyybZzzz6Zyyy9Zzzz7Zyyy93Zzzz",
  "Zyyy66Zzzz406Hania6e0Zzzz20Hani103aZzzz6HanideZzzz2Hani1682ZzzzeHani1d31ZzzzfHani26eZzzz9a2",
  "Hani21eZzzz5e2Hani134bZzzz5Hani1060Zzzzadc51ZyyyZzzz1eZyyy60Zzzz80Zinhf0Zzzz2fe10"]

def set (code : String) : CharSet := table.set (· == code)

/-! ## Extensions -/

def codes (text : List Char) : List String := (groupsFrom Char.isUpper text).map String.ofList

/-- The characters that are not extended by their own script alone: the characters passed over in
front of a run of them, its length, and the scripts. -/
def extensions : List (Nat × Nat × List String) :=
  (entries [
  "b7.1.AvstCariCoptDuplElbaGeorGlagGongGothGrekHaniLatnLydiMahjPermShaw",
  "204.1.BengCyrlDevaLatnLisuThaiToto a.1.BopoLatn 1.3.BopoLatn 1.1.LatnLisu 9.1.LatnThai",
  "1.1.BopoLatn 26.1.CherCoptCyrlGrekLatnPermSunuTale 0.1.CherCyrlGrekLatnOsgeSunuTaleTodr",
  "0.1.CherCyrlLatnTfng 0.1.GlagLatnSunuSyrcThai 0.1.AghbCherCoptCyrlGothGrekLatnOsgeSyrcTfngTodr",
  "0.1.CoptElbaGlagGothKanaLatn 0.1.CyrlGrekLatnPermTfng 0.1.CoptDuplHebrLatnPermSyrcTaleTfngTodr",
  "0.1.ArmnCyrlDuplGothGrekHebrLatnPermSyrcTaleTfng 0.1.LatnTfng 0.1.DuplLatnSyrc",
  "0.1.CherCyrlLatnOsge 0.1.CherLatnTale 0.1.LatnSunu 0.1.EthiLatn 1.1.LatnSunu 0.1.CyrlLatnTodr",
  "1.1.GrekLatnPermTodr f.1.CherDuplKanaLatnSyrcTfng 0.1.CherDuplLatnSyrc 0.1.LatnSyrc",
  "7.1.LatnSunuSyrc 0.1.LatnSyrc 1.1.CherLatnSyrc 0.1.AghbCherGothLatnSunuSyrcThai 10.1.Grek",
  "2.1.Grek 12.1.LatnOsge 5.1.AghbLatnTodr 4.d.Latn 4.2.CoptGrek 10d.1.CyrlPerm 0.1.CyrlGlag",
  "0.2.CyrlLatn 0.1.CyrlGlag 101.1.ArmnGeorGlag 82.1.ArabGaraNkooRohgSyrcThaaYezi",
  "e.1.ArabGaraNkooRohgSyrcThaaYezi 0.1.ArabSyrcThaa 2.1.AdlmArabGaraNkooRohgSyrcThaaYezi",
  "20.1.AdlmArabMandManiOugrPhlpRohgSogdSyrc a.b.ArabSyrc a.a.ArabThaaYezi 6.1.ArabSyrc",
  "63.1.ArabRohg 27c.1.BengDevaGranGujrGuruKndaLatnMlymNandNewaOryaShrdTamlTeluTirh",
  "0.1.BengDevaGranGujrGuruKndaLatnMlymNewaOryaTamlTeluTirh",
  "11.1.BengDevaDogrGongGonmGranGujrGuruKndaMahjMlymNandOnaoOryaSindSinhSyloTakrTamlTeluTirh",
  "0.1.BengDevaDogrGongGonmGranGujrGukhGuruKndaLimbMahjMlymNandOnaoOryaSindSinhSyloTakrTamlTeluTirh",
  "0.a.DevaDogrKthiMahj 76.a.BengCakmSylo 76.a.GuruMult 76.a.GujrKhoj f6.e.GranTaml",
  "f2.a.KndaNandTutg 350.a.CakmMymrTale b1.1.GeorGlagLatn 5ef.3.Runr 47.2.BuhdHanoTagbTglg",
  "cb.2.MongPhag 1.1.MongPhag 4ca.1.BengDevaGranKnda 0.1.Deva 0.1.BengDevaGranKnda",
  "0.1.DevaGranKnda 0.1.Deva 0.1.BengDevaNewaTeluTirh 0.1.BengDevaTelu 0.1.DevaNewaShrd",
  "0.1.BengDevaNewaTelu 0.1.DevaShrd 0.1.DevaKndaMlymOryaTamlTelu 0.1.Deva 0.2.DevaShrd 0.2.Deva",
  "0.1.DevaShrd 0.1.BengDeva 0.1.DevaNewaTirh 0.6.Deva 0.1.DevaNandNewa 0.1.BengDevaShrd",
  "0.1.DevaNewa 0.1.Deva 0.1.BengDevaNewaShrd 0.4.Deva",
  "0.1.BengDevaGranKndaMlymNandOryaSinhTeluTirhTutg 0.1.DevaGran 0.1.DevaGranKndaTutg",
  "0.2.BengDeva 0.1.Beng 0.2.DevaGran 0.1.Nand c5.2.Grek 36.1.CyrlLatnSyrc 1.1.Syrc",
  "234.1.LatnMongPhag 1f.1.AdlmArab a.1.CariGeorGlagHungLyciOrkh 2.1.CariGrekHungMero",
  "92.1.DevaGranLatn d26.1.CoptLatn 18.1.AvstOrkh 0.1.AvstCariGeorHungKthiLydiSamr a.1.Dupl",
  "4.1.AdlmArabHung 1.1.CyrlGlag 1ac.10.HaniTang 1.1.BopoHangHaniHiraKanaMongYiii",
  "0.1.BopoHangHaniHiraKanaMongPhagYiii 0.1.BopoHangHaniHiraKana 2.1.Hani",
  "1.2.BopoHangHaniHiraKanaMongTibtYiii 0.2.BopoHangHaniHiraKanaLisuMongTibtYiii",
  "0.6.BopoHangHaniHiraKanaYiii 1.1.BopoHangHaniHiraKana 0.8.BopoHangHaniHiraKanaYiii",
  "0.4.BopoHangHaniHiraKana a.4.BopoHani 2.1.BopoHangHaniHiraKana 0.5.HiraKana",
  "1.1.BopoHangHaniHiraKana 4.2.HaniHiraKana 0.2.Hani 59.4.HiraKana 3.1.HiraKana",
  "5a.1.BopoHangHaniHiraKanaYiii 0.1.HiraKana 93.10.Hani 20.26.Hani 9.1.HaniTang 30.28.Hani",
  "38.31.Hani f.c.Hani 33.1.Hani 58.19.Hani a.5.Hani 60.1f.Hani 7270.1.CyrlGlag 90.8.HaniLatn",
  "128.3.DevaDogrGujrGuruKhojKndaKthiMahjMlymModiNandShrdSindTakrTirhTutg",
  "0.3.DevaDogrGujrGuruKhojKndaKthiMahjModiNandShrdSindTakrTirhTutg",
  "0.2.DevaDogrGujrGuruKhojKthiMahjModiSindTakrTirh",
  "0.1.DevaDogrGujrGuruKhojKthiMahjModiShrdSindTakrTirh",
  "0.1.DevaDogrGujrGuruKhojKthiMahjModiSindTakrTirh b7.1.BengDevaTutg 1.1.DevaTaml",
  "3a.1.KaliLatnMymr a0.1.BugiJava 536e.2.ArabNkoo b2.1.ArabThaa a.1.ArabThaa",
  "47.2.BopoHangHaniHiraKana 11a.5.BopoHangHaniHiraKanaYiii a.1.HiraKana 2d.2.HiraKana",
  "160.2.CpmnCprtLinb 0.1.CprtLinb 4.2d.CprtLinaLinb 3.9.CprtLinb 1a0.1c.ArabCopt 7f6.1.ManiOugr",
  "80e.1.GranTaml 1.1.GranTaml 37.2.GranTaml c93.2.GranTaml 1.1.GranTaml 9ccc.4.Dupl 16bc.12.Hani",
  "1ede.2.Hani"]).filterMap fun entry =>
    match entry.splitOnP (· == '.') with
    | [gap, length, scripts] => some (hexNumber gap, hexNumber length, codes scripts)
    | _ => none

def extensionTable : RunTable (List String) :=
  ⟨(extensions.flatMap fun (gap, length, scripts) => [([], gap), (scripts, length)]).filter
    fun run => run.2 != 0⟩

def extendedSet (code : String) : CharSet :=
  .union (.difference (set code) (extensionTable.set fun scripts => !scripts.isEmpty))
    (extensionTable.set fun scripts => scripts.contains code)

end RelationQuery.Text.Script
