import Inquiry.Text.CharSet

/-!
Scripts of characters, by the data of Unicode 17.
-/
namespace Inquiry.Text.Property

/-- The script of every code point, in runs; label 0 is none, and the others count the rows of
`scriptNames` from 1. -/
def scriptRuns : String :=
  String.join [
    "aTdUQb26dUQb2aBdU1b2FdU1b25dUNb21dUVb21dUlHb2a3dU5b25dU2FKdUc4dT4aA1dU3aA204aA1dU1aA401aA1dU1",
    "aA1dU3aA101aA10KaA10aRaAEQGaAcPT2dTdPT10a2620aE6203610aJaI80RaI406aIB0541dU641dUE41dU341dUW41",
    "dUA4BdTQ41dTc041dUY4EcY10aOcY203cYaC4aEdAE0aNbV203bVaAcH20FcH10SbC201bC10BcY50Y450b341dUT4b9U",
    "4dTFU2dUQU4C108C202C20MC107C101C304C209C202C204C801C402C105C20PC203aD106aD402aD20MaD107aD102a",
    "D102aD102aD201aD105aD402aD203aD301aD704aD101aD70HaDA03aB109aB103aB10MaB107aB102aB105aB20AaB10",
    "3aB103aB201aBF04aB20CaB707aB103c1108c1202c120Mc1107c1102c1105c1209c1202c1203c1703c1402c1105c1",
    "20Ic1A02d3106d3303d3104d3302d3101d3102d3302d3303d330Cd3405d3303d3104d3201d3601d3E0Ld350Dd7103",
    "d710Nd710Gd7209d7103d7104d7702d7103d7102d7204d720Ad7709d7DaX103aX10NaX10AaX105aX209aX103aX104",
    "aX702aX503aX104aX20AaX103aXC0DbJ103bJ10aFbJ103bJ106bJ40GbJ20QbJ103cQ10IcQ30OcQ109cQ101cQ207cQ",
    "301cQ406cQ101cQ108cQ60AcQ203cQC0aMdB401dUSdBa102b1101b1105b110Ob1101b110Nb1205b1101b1107b110A",
    "b1204b1W0b0dC10a0dC40a3dC10a0dC10FdC107dC4dU2dCa10dGbPa2a4101a4501a420a7a41dU4a4g4aEb1a2104a2",
    "207a2101a2104a220a5a2104a220Xa2104a2207a2101a2104a220Fa210aLa2104a220aVa220Wa230Qa260bEO206O2",
    "0qSLTbX30b3cG3dUBcG70Md9901d9LaG2dU90KJC0DcZ103cZ102cZC0bMaU20AaU60AaU602bL2dU1bL1dUKbL60bHbL",
    "70a7bL50aYLA0Vb410Cb440Cb4401b430Cb4Ud1205d1B0a8d240Qd260Bd2302d2WaUSI202IaRb010Tb020Bb060Ab0",
    "60Eb020aAdT20CdTK0b5810aE8aScVaGB804BaKb330Fb3303b3aCbYBT50a7a4203a48cV803dT1dUDdT1dU7dT4dU1d",
    "T6dU1dT3dU2dT1dU50a2b25aA1TaDb25aA4b25aADb21TaYb21aAaSdTg4b2MaA206aA20a2aA206aA208aA101aA101a",
    "A101aA10VaA20aHaA10FaA10EaA206aA10JaA203aA109aA10CdU2dTbFdU10BdU1b220BdU1b2FdU10Db230YdUE0XdT",
    "F0a2dU1aA3dU2b26dU1b2RdU1b2HdUa5b23dU40rIdUM0BdUL0ySdUg4HqGdU20cUdUbOa5Wb2c8Q507Qa2a4101a4501",
    "a420aKd8702d8E01d8Na2907a2107a2107a2107a2107a2107a2107a2107a210WTbMdUY0QaF10bHaFC0eYaFQ0LdU1a",
    "F1dU1aFPdU9aF4dT2aE8dU4aF4dU10bEaJ202dT2dU3aJ1dUbIaR2dU3aR50a7F10bMaE10GdUWFa2dU901dUGaRVaE10",
    "aSdUVaEb9dUaBaR1dUbGaRdOdUga4aFaSdUvk4aFafDdR30aJdR90aCb7hCdKK0bOTbG980YdUbUb23dUbAb2K0Fb2a9c",
    "X30AdU60aKc880aYcJ80CcJ60WUaAaQ1dU1aQa0cEB01cETaE30b6aP101dUAaP402aPVbP10aJN90EN20AN204NWbPaV",
    "d5O05d5NbNA06a2206a2206a2907a2107a210a7b21dU9b21aA4b22dU40b8OaAbN20AbN60kxCaEC0NaE40aDaEhzS0j",
    "6aF20bYaFa207b2C05650QaI105aI101aI102aI102aI10AaImQ42dUd04W0G4GdTAdU60EdT2TZdU10JdU104dU40541",
    "0cR4201dU10WdUQb26dUQb2BdUAaR1dUa9aR2dUVaE306aE206aE206aE203aE307dU107dUA05dU20Cb610Qb610Jb61",
    "02b610Fb620Eb6Y0cFb6503dU40a9dU309dUb7aA10DdU301aAaB0a9dU1dTcM0Tb830aDMF01dTRdU40a0aO903aORa8",
    "50a7c750UdJ101dJa0dO40EdOa60b8XaCcLUc320Ac360a0c240a0c240a4a080aG2B012BdL10FdL107dL102dL10BdL",
    "10FdL107dL102dL30aGdFC0hNb590Mb5A08b5O06b210a6b2109b2aX06S201S10a8S102S301S201SM51095Wc5VbT80",
    "9bTaC0JaH102aH505aHScB301cBQb9501b9QcOa20WbIObH40KbH20aAbH4aT102aT508aT103aT10TaT203aT40AaT70",
    "9aT70WcIWbSW0a3bD40CbD90aI73077McD208cDJc9508c9IcA704cAC07cAb80b1c0aJ0aFaND0aFaN706aNa4cF80Ac",
    "F60a2a330Ta3802a3eS0V410a6dQ103dQ202dQG0648094X064a4cS80a6cRM0Qc4a20SPK0Na190b6G40a0G901GaVaZ",
    "A01aZ20PcT70AcT60aHK10IK80a3bA90bOcM10KcQB0IaV10aBaVaQ07bO101bO104bO10FbO10BbO60aNcP50AcP604a",
    "9108a9202a920Ma9107a9102a9105a9101dT9a9202a9203a9201a9601a9507a9207a9305a9B0AdI101dI201dI10a2",
    "dI10AdI101dI201dI104dI10AdI102dI802dIT0bKbU105bUU0b0dD80AdDdM0aIcN20a2cNY0aXbKB0AbK60DbLJ0aMd",
    "060Ad060KbPS0R320F340N3e50aOWbS0bBdMC01dM7V201V208V102V10UV102V20CV90AVaY08bR20aAbR20BbRR0b0d",
    "S80bBcUD0GLaLc670AUbE08cMbG0YcWE0AcW609E10a9E10EEA0TE30WbE20MbE10EbEb107a7102a710a8a7301a7102",
    "a7109a780Aa7606a6102a610a1a6102a6106a670Aa660a8dG40AdGfU0PbB70HaS10a5aS30TaSbD01b7F0aEd3D01d3",
    "yMdPbU0c3dP105dPB0eGdPbu80bRRD0adUZA0dfZZ50p7aKgh10aMaCav60oT970VbM10AbM402bMb7dE10AdE60UA206",
    "AA0aYaLA0AaL107aL10LaL50JaLl00aMaYeI0bJbF50PD20PDa80b3cC40aLcC70HcCaS01d41bW2aF1aWB07aF90gj0d",
    "4m2aWa501aWVd4bP0c7d4igP04aR107aR102aR101aRgZaJ3aRF01aJT03aJ201aRE04aR80k0bWbl40bZY50DY309Y70",
    "AY204Y4dUde80g1dU30l4dU60NdUF0HdUF0aAdT20NdT90c8dUaO0fUdUA0a3dU20aQdU3dTHdU8dT2dU7dTUdU4dTaPd",
    "UL0aYaAcE0KdUC0KdUC0bFdU90PdUcR0bDdU10aZdU102dU201dU202dU204dU10CdU101dU107dU10aTdU104dU208dU",
    "107dU10SdU104dU105dU101dU307dU10iGdU20h4dU20aEdUr4cKF05cK10FcKadO0Vb2606b2eX07a510Ha5207a5102",
    "a5105a550aQTX01Tc40a9aM30EaM20AaM402aMhW0VdHH0aMdN501dNlW0a6bQeY0a7bZ401bZeC0Vd610Md6802d6f80",
    "7a2104a2102a210Fa210eHbG20GbGa50b4140A14021uT0aWdUb40aPdUeE04410R410241014201410A410441014101",
    "4601440141014101410341024101420141014101410141014102410142044107410441044101410A410H450341054",
    "10H4aG024gI0a8dU40bSdUC0FdU20FdU10FdU10a1dUA0dUdUaK0QdU1aJ2dUD0a8dU409dU702dUE06dUdA0aaDdU30H",
    "dU30DdU30f2dU60CdU401dUF0CdU40aKdU80AdU60a4dU80UdU20CdU402dUE09dUa30iKdU80EdU20DdU30BdU30aLdU",
    "101dU40GdU20CdU40AdU70d3dU10bVdUabL0aspOaFW0dqQaF20fdEaF20gyLaFF0qAaFbpI0o2aFaoU0eg7aF50iaUaF",
    "acauR01dUU0bOdUcK0fOdThamK0"]

/-- The names of a script, without regard to case and marks, the code points that are not of the
script but may be written in it, and those of the script that are bound to others. -/
structure ScriptRow where
  names : List String
  borrowed : String
  lent : String

def scriptNames : List ScriptRow := [
  ⟨["adlm", "adlam"], "aqJ0W0gcA0cu50", ""⟩,
  ⟨["aghb", "caucasianalbanian"], "uG0a80a80", ""⟩,
  ⟨["ahom"], "", ""⟩,
  ⟨["arab", "arabic"], "aq00E030W0AAQ0gaY0cu50bdoW1an0R", ""⟩,
  ⟨["armi", "imperialaramaic"], "", ""⟩,
  ⟨["armn", "armenian"], "uK0", ""⟩,
  ⟨["avst", "avestan"], "e30lkC1", ""⟩,
  ⟨["bali", "balinese"], "", ""⟩,
  ⟨["bamu", "bamum"], "", ""⟩,
  ⟨["bass", "bassavah"], "", ""⟩,
  ⟨["batk", "batak"], "", ""⟩,
  ⟨["beng", "bengali"], "sG0atS1H1eh201021108080204022algD0", ""⟩,
  ⟨["berf", "beriaerfe"], "", ""⟩,
  ⟨["bhks", "bhaiksuki"], "", ""⟩,
  ⟨["bopo", "bopomofo"], "sR012D0li32491CA32060eF0bdcT1gU4", ""⟩,
  ⟨["brah", "brahmi"], "", ""⟩,
  ⟨["brai", "braille"], "", ""⟩,
  ⟨["bugi", "buginese"], "atkJ0", ""⟩,
  ⟨["buhd", "buhid"], "fi11", ""⟩,
  ⟨["cakm", "chakma"], "brE9arW9", ""⟩,
  ⟨["cans", "canadianaboriginal"], "", ""⟩,
  ⟨["cari", "carian"], "e30hpY020ctB0", ""⟩,
  ⟨["cham"], "", ""⟩,
  ⟨["cher", "cherokee"], "uC21061M1B1", ""⟩,
  ⟨["chrs", "chorasmian"], "", ""⟩,
  ⟨["copt", "coptic", "qaac"], "e30p803110c01kq50bfe4R", ""⟩,
  ⟨["cpmn", "cyprominoan"], "brgK1", ""⟩,
  ⟨["cprt", "cypriot"], "brgK24a838", ""⟩,
  ⟨["cyrl", "cyrillic"], "sG0aV21010102050jB1fxX0dkU0", ""⟩,
  ⟨["deva", "devanagari"], "sG0atS1H1eh2a211ab60ajyR9", ""⟩,
  ⟨["diak", "divesakuru"], "", ""⟩,
  ⟨["dogr", "dogra"], "bnSBaqjW9", ""⟩,
  ⟨["dsrt", "deseret"], "", ""⟩,
  ⟨["dupl", "duployan"], "e30pF110O1ktF0ddxZ3", ""⟩,
  ⟨["egyp", "egyptianhieroglyphs"], "", ""⟩,
  ⟨["elba", "elbasan"], "e30pD0", ""⟩,
  ⟨["elym", "elymaic"], "", ""⟩,
  ⟨["ethi", "ethiopic"], "uQ0", ""⟩,
  ⟨["gara", "garay"], "aq00E030", ""⟩,
  ⟨["geor", "georgian"], "e30ah90ccD0deA0ctE0", ""⟩,
  ⟨["glag", "glagolitic"], "e30pB010jM020g50ccD0deA0ctW0afvJ0", ""⟩,
  ⟨["gong", "gunjalagondi"], "e30biO1", ""⟩,
  ⟨["gonm", "masaramgondi"], "bnS1", ""⟩,
  ⟨["goth", "gothic"], "e30pC120a40", ""⟩,
  ⟨["gran", "grantha"], "bn91H1qSDdoW011U231ab60bnfY0ckG110", ""⟩,
  ⟨["grek", "greek"], "e30p81201010A0aA020aA0gdZ1rJ0", ""⟩,
  ⟨["gujr", "gujarati"], "bn91H1aqk69", ""⟩,
  ⟨["gukh", "gurungkhema"], "bnT0", ""⟩,
  ⟨["guru", "gurmukhi"], "bn91H1aqk69", ""⟩,
  ⟨["hang", "hangul"], "mcD2491CG060eF0bdcT1gU4", ""⟩,
  ⟨["hani", "han"],
    "e30lwSF1220191CA3206043e70d4FWa190aCa3aKaCFBaF0bGOA4bOUaekT7wvD1gU4beyEHhkI1", ""⟩,
  ⟨["hano", "hanunoo"], "fi11", ""⟩,
  ⟨["hatr", "hatran"], "", ""⟩,
  ⟨["hebr", "hebrew"], "uJ1", ""⟩,
  ⟨["hira", "hiragana"], "mcD2491CG51041bJ330bI1bdcS1gU4A0a91", ""⟩,
  ⟨["hluw", "anatolianhieroglyphs"], "", ""⟩,
  ⟨["hmng", "pahawhhmong"], "", ""⟩,
  ⟨["hmnp", "nyiakengpuachuehmong"], "", ""⟩,
  ⟨["hung", "oldhungarian"], "hv2020ctB0F0", ""⟩,
  ⟨["ital", "olditalic"], "", ""⟩,
  ⟨["java", "javanese"], "atkJ0", ""⟩,
  ⟨["kali", "kayahli"], "atg20", ""⟩,
  ⟨["kana", "katakana"], "uH0T0lg12491CG51041bJ330bI1bdcS1gU4A0a91", ""⟩,
  ⟨["kawi"], "", ""⟩,
  ⟨["khar", "kharoshthi"], "", ""⟩,
  ⟨["khmr", "khmer"], "", ""⟩,
  ⟨["khoj", "khojki"], "byI9apz89", ""⟩,
  ⟨["kits", "khitansmallscript"], "", ""⟩,
  ⟨["knda", "kannada"], "bn91H1eh201160N010alb35", ""⟩,
  ⟨["krai", "kiratrai"], "", ""⟩,
  ⟨["kthi", "kaithi"], "bnU9jaD0agiI9", ""⟩,
  ⟨["lana", "taitham"], "", ""⟩,
  ⟨["laoo", "lao"], "", ""⟩,
  ⟨["latn", "latin"],
    "e30nC0A012109010a2E1110F27111a20504CgP1ah21bbG0cnC0oQ0eC0coI0agaS7oA0", ""⟩,
  ⟨["lepc", "lepcha"], "", ""⟩,
  ⟨["limb", "limbu"], "bnT0", ""⟩,
  ⟨["lina", "lineara"], "brgRa8", ""⟩,
  ⟨["linb", "linearb"], "brgK24a838", ""⟩,
  ⟨["lisu"], "sG0G0liO1", ""⟩,
  ⟨["lyci", "lycian"], "hv20", ""⟩,
  ⟨["lydi", "lydian"], "e30lkD0", ""⟩,
  ⟨["mahj", "mahajani"], "e30biOBaqjW9", ""⟩,
  ⟨["maka", "makasar"], "", ""⟩,
  ⟨["mand", "mandaic"], "arG0", ""⟩,
  ⟨["mani", "manichaean"], "arG0", ""⟩,
  ⟨["marc", "marchen"], "", ""⟩,
  ⟨["medf", "medefaidrin"], "", ""⟩,
  ⟨["mend", "mendekikakui"], "", ""⟩,
  ⟨["merc", "meroiticcursive"], "", ""⟩,
  ⟨["mero", "meroitichieroglyphs"], "hv50", ""⟩,
  ⟨["mlym", "malayalam"], "bn91H1ehC0N0alb52", ""⟩,
  ⟨["modi"], "asz09", ""⟩,
  ⟨["mong", "mongolian"], "fnQ110bf10dhH153", ""⟩,
  ⟨["mroo", "mro"], "", ""⟩,
  ⟨["mtei", "meeteimayek"], "", ""⟩,
  ⟨["mult", "multani"], "buY9", ""⟩,
  ⟨["mymr", "myanmar"], "atg20", ""⟩,
  ⟨["nagm", "nagmundari"], "", ""⟩,
  ⟨["nand", "nandinagari"], "bn90I1xW9diL08070alaX5", ""⟩,
  ⟨["narb", "oldnortharabian"], "", ""⟩,
  ⟨["nbat", "nabataean"], "", ""⟩,
  ⟨["newa"], "bn91ehQ01190601010", ""⟩,
  ⟨["nkoo", "nko"], "aq00E030booA1", ""⟩,
  ⟨["nshu", "nushu"], "", ""⟩,
  ⟨["ogam", "ogham"], "", ""⟩,
  ⟨["olck", "olchiki"], "", ""⟩,
  ⟨["onao", "olonal"], "bnS1", ""⟩,
  ⟨["orkh", "oldturkic"], "hv20ctD0", ""⟩,
  ⟨["orya", "oriya"], "bn91H1ehC0N0", ""⟩,
  ⟨["osge", "osage"], "uD02060b40", ""⟩,
  ⟨["osma", "osmanya"], "", ""⟩,
  ⟨["ougr", "olduyghur"], "arG0bsgT0", ""⟩,
  ⟨["palm", "palmyrene"], "", ""⟩,
  ⟨["pauc", "paucinhau"], "", ""⟩,
  ⟨["perm", "oldpermic"], "e30p8052A0j70", ""⟩,
  ⟨["phag", "phagspa"], "fnQ110bf10dhI0", ""⟩,
  ⟨["phli", "inscriptionalpahlavi"], "", ""⟩,
  ⟨["phlp", "psalterpahlavi"], "arG0", ""⟩,
  ⟨["phnx", "phoenician"], "", ""⟩,
  ⟨["plrd", "miao"], "", ""⟩,
  ⟨["prti", "inscriptionalparthian"], "", ""⟩,
  ⟨["rjng", "rejang"], "", ""⟩,
  ⟨["rohg", "hanifirohingya"], "aq00E030W0d30", ""⟩,
  ⟨["runr", "runic"], "ffZ2", ""⟩,
  ⟨["samr", "samaritan"], "lpH0", ""⟩,
  ⟨["sarb", "oldsoutharabian"], "", ""⟩,
  ⟨["saur", "saurashtra"], "", ""⟩,
  ⟨["sgnw", "signwriting"], "", ""⟩,
  ⟨["shaw", "shavian"], "e30", ""⟩,
  ⟨["shrd", "sharada"], "bn90ehT01021209020albA520", ""⟩,
  ⟨["sidd", "siddham"], "", ""⟩,
  ⟨["sidt", "sidetic"], "", ""⟩,
  ⟨["sind", "khudawadi"], "bnS1aqk69", ""⟩,
  ⟨["sinh", "sinhala"], "bnS1ei00", ""⟩,
  ⟨["sogd", "sogdian"], "arG0", ""⟩,
  ⟨["sogo", "oldsogdian"], "", ""⟩,
  ⟨["sora", "sorasompeng"], "", ""⟩,
  ⟨["soyo", "soyombo"], "", ""⟩,
  ⟨["sund", "sundanese"], "", ""⟩,
  ⟨["sunu", "sunuwar"], "uC1109020S030", ""⟩,
  ⟨["sylo", "sylotinagri"], "bnS1cK9", ""⟩,
  ⟨["syrc", "syriac"], "uF12110O27111tA0E120W0AAQ0fkB010", ""⟩,
  ⟨["tagb", "tagbanwa"], "fi11", ""⟩,
  ⟨["takr", "takri"], "bnS1aqk69", ""⟩,
  ⟨["tale", "taile"], "uC15130coV9", ""⟩,
  ⟨["talu", "newtailue"], "", ""⟩,
  ⟨["taml", "tamil"], "bn91H1ehC0alh80abz5010aJ1", ""⟩,
  ⟨["tang", "tangut"], "mbWFmR0", ""⟩,
  ⟨["tavt", "taiviet"], "", ""⟩,
  ⟨["tayo", "taiyo"], "", ""⟩,
  ⟨["telu", "telugu"], "bn91H1eh711010N0", ""⟩,
  ⟨["tfng", "tifinagh"], "uE01013P0", ""⟩,
  ⟨["tglg", "tagalog"], "fi11", ""⟩,
  ⟨["thaa", "thaana"], "aq00E120aS9bor80A0", ""⟩,
  ⟨["thai"], "sG0Q0a70a90", ""⟩,
  ⟨["tibt", "tibetan"], "mcK3", ""⟩,
  ⟨["tirh", "tirhuta"], "bn91H1eh70C0F0alb59", ""⟩,
  ⟨["tnsa", "tangsa"], "", ""⟩,
  ⟨["todr", "todhri"], "uD020209010b20", ""⟩,
  ⟨["tols", "tolongsiki"], "", ""⟩,
  ⟨["toto"], "sG0", ""⟩,
  ⟨["tutg", "tulutigalari"], "cmQ9diU010alb35e70", ""⟩,
  ⟨["ugar", "ugaritic"], "", ""⟩,
  ⟨["vaii", "vai"], "", ""⟩,
  ⟨["vith", "vithkuqi"], "", ""⟩,
  ⟨["wara", "warangciti"], "", ""⟩,
  ⟨["wcho", "wancho"], "", ""⟩,
  ⟨["xpeo", "oldpersian"], "", ""⟩,
  ⟨["xsux", "cuneiform"], "", ""⟩,
  ⟨["yezi", "yezidi"], "aq00E030aS9", ""⟩,
  ⟨["yiii", "yi"], "mcD15927f70bdkP4", ""⟩,
  ⟨["zanb", "zanabazarsquare"], "", ""⟩,
  ⟨["zinh", "inherited", "qaai"], "",
    "uCE1110F27111G020I0504CgP1lKAQ0tG1ehL21C16406031eI1aI010u10dd93bZ1bem90dlA0"⟩,
  ⟨["zyyy", "common"], "", String.join [
    "e30nC0A012109010dA0rF0E030W0vB1baX0ap72aZ1eN110ah50D073151220vS0V0A020csL0O1A04010kWF1220191C",
    "G51043bJ130bI1d3FWa190aCa3aKaCFBaF0bGOA4bOUaekT7h89fS0dG0vuA1g91gU4A0a91iS24a838kLQaxt43feOHh",
    "kI1"]⟩]

def script (name : String) : Option (ScriptRow × Nat) :=
  (scriptNames.zipIdx 1).find? fun row => row.1.names.contains name

def script? (name : String) : Option CharSet :=
  (script name).map fun row => CharSet.ofRuns scriptRuns [row.2]

/-- The characters that are written in a script, also if they serve others as well. -/
def scriptExtension? (name : String) : Option CharSet :=
  (script name).map fun (row, label) =>
    ((CharSet.ofRuns scriptRuns [label]).union (CharSet.ofTable row.borrowed)).diff
      (CharSet.ofTable row.lent)

end Inquiry.Text.Property
