import Inquiry.Text.CharSet

/-!
Properties that a character has or has not, by the data of Unicode 17.
-/
namespace Inquiry.Text.Property

/-- The names of each property, without regard to case and marks, and its table. -/
def properties : List (List String × String) := [
  (["asciihexdigit", "ahex"],
    "aC975Q5"),
  (["alphabetic", "alpha"],
    String.join [
    "aTP6PaB0A0405M1U1lP4BE47010bE0TH1123106012101J1bA1cU8dL1a1206a4a3D101111108Q43TA5aJ16EbT1747",
    "42A220GaBDbSOW91405N2IJO7A5N16708a5AB366b31F124EDI17212L16103337212110804114C1A04215412L1611",
    "1111444121407310H5B218121L16111438121130F3L34217212L161114372121914114D0G115321331101131323B",
    "4432123060a4C121M1F37121281121123S317121M1914371212815213D2CC121a4271212105374M5121H3N181026",
    "851017I1DaL5660aF110141N101I12241060E3W0aR71Z4I4F1ZaVaI1024GaRA32a110502a61i8132610132a4132W",
    "132610132E1aK132aUa1FGbD253q72G1P5b23A7JBKCJCC1211CaF2IE040aVbG7a65aXAU1B48NT24Ba74PaIR4aQ2J",
    "aE0N1B2aDaF1E17aFa523Aa71AEaIM2AZ2A5a622a531511305eBJXBgP252a125271010101U2aG1610321633254C5",
    "216c80D0GCbT040291034601010131A235440Ha4vLaFaxEfC6331Ca110502aJ70GM96161616161616161VaB0m12P",
    "874244bD621bH135a61bLHVaCFn8ga3aSwqGaVa92gG3FA1KaA573c4a382bU2b9KK1WOaFCaV10a853012AW5YDS3aE",
    "1BF0GFA41aI9DIM3aW1010O22F23B5252596161a61D6cELkxBCM4aChzSj52bXa26C45B1C141011111bZXj2IaR2aH",
    "a4Bc841cQa0P6PBbG35252522ZB1P1I111E2DYcEaXaGgFS3aCaBVDT5a65T2Z4714a6dDIZ4Z4a38aFCA1E16111A1E",
    "16113aFChM9LA7O51a518aX5201a711302MAM9UaTI11ALAP6Pa2aJ61aS31157121Sa6S3SZ71RRaHALAIDHc2b0aJa",
    "EDaEDa3YR305MfYa51131G5aE23SA08La6HaAKRM9aXa74AaK90DONaEH38Y309aR1391A010ZH1X2063aQ610131E19",
    "7aKN317212L161114372121306056S910201a119102013113010a8aT1213K2UaT2110e4aH26P5YaQ1030aNaH20aZ",
    "Q2DL6e5aKbVaRV72027111T112123bL72a9251011RaE29HaZ50Ib0bV7bGWV81a81610aDT2L1Db16111a730111210",
    "21O5111a0111310Na7g8M9G1a432c30b7yLbUc2HeFbu8bOFacRH5PdfY5p6gh1aAavHoS7UHb6HTIaBG3VK5Il0a8eV",
    "aRWO2Oa8b24aK7GaS110C69gw1a5VbPc6igP316111h2F0T220E38jZbl4bY5C387940fj9bC1aY112021231B10161a",
    "S1327161R131410361iF2O1O1U1O1U1O1U1O1U1O17ay8U65eX61G2611145aPX0c4a8A6G0hXTIa7mGRfCT20eRU1L8",
    "1f8613111E1eGaNaV3030agG31Q1110201913101060401010121110201010101011102316131310191G52141GqGP",
    "6P6PcxUaspNWdqP2fdD2gyKFq9bpIo1aoUeg65iaT"]),
  (["bidicontrol", "bidic"],
    "aqG0gbH1Q4aJ3"),
  (["bidimirrored", "bidim"],
    String.join [
    "a41I010S010T010a90F0cy23azD1bpC1A1aI1E1dX0eC33530313313101048501H539110171V2350912I5194214N2",
    "F83K171ad5Db2023111253523Dk7L251D807530441124401221A521CI13201020135162O1B14311214a6271a3501",
    "03452403410g40nB33111E129a77kV927bdjL551dI1I010S010T0101111bfx70aL0aL0aL0aL0"]),
  (["caseignorable", "ci"],
    String.join [
    "a3060B0Z010aZ040104021mZeB41409110fZ6eR050aDa810111110a80B5AA10Z0AKG0bT71913X010UQbJAaMA4020",
    "ONa72a807158a5aLaJ010474036A1D0F0aM04380K1Q021aL041412230U130B1aL0441140K1M510aM020138071B1U",
    "0aP0C0aE030aJ012521371B1T0aM0206051K1S1aL14380K1T0b007210bI026B8bQ0289016b11R01010aJD14115A1",
    "Z90bU3151121P142G3D02160F0bM0pW2zA2T1U1U1aS116802A3050a94aF0aT1Y0cA2419062f3120aM01610102769",
    "20a308a92BK3aC0141050a48C1W32112aK0113012aM721aS5bA21C16406031aEaQD0YbSlD012B2D2D2D1C481A020",
    "24aD41910D0GCaFWcd31c52cH0F0bOVaB0m10a033450bL5bL2adiY0ahQ5gI0bQ31910S3b81EXb60N2bU331803040",
    "P150d71QHD0a27PAaA2aC02321H0L1aU52121C080Z0B0aF012215110R0E15110bS492cD02040uq40d3GoXF30CFY0",
    "20dP07060B0Z010aB0a91aV0L2n90fA0d54abL51a518p621153a4240dL1oX3a20Q410hR1O0aG5aYAaD3cF0aIEa50",
    "21A2aD3212040A0aE2a0417aQ0C1aG8A320bN220116020dD037L1aL130a1634aY5D01010E1bD72210N0bC5104111",
    "fM36111R1bD72011bY0102510bT0102314g7811g411040d032140W9a4523809522aAC11eI01210eL61510bAL2611",
    "11cE530111610b013010aT0gT1B1aG45010N0er5G6ElfGB32bqC4aN693n42a41mE0aRGaS111D1qm031611ckQ113d",
    "zKa92Mo429F26U3d42bbZaI4aD80E0M41EakS61G2611145aPX0dGDj80aP3n34g21fR020715090lW6c17bwZ4afklP",
    "0UbNcKfN"]),
  (["cased"],
    String.join [
    "aTP6PaB0A0405M1U1eE134eR2Y71U4bO0a632123106012101J1bA1cU8dL1a19a4bzVa110502a613rObD25bhIA5a6",
    "22aSeBaSgP252a125271010101U2aG1610321633254C5216c80D0GCbT040291034601010131540235440HV31vPaF",
    "axEfC6331Ca11050agbYa9ITcObT331b4K512vTa61D6b7uqK6C4abPP6Pag1b7bOZ4Zc8A1E16111A1E1611lJ0221a",
    "518agXaEDaEbLLALbzYaRwi4aRWO2OaaqGbC1aY112021231B10161aS1327161R131410361iF2O1O1U1O1U1O1U1O1",
    "U1O17ay891J65g9aPbhYaVbdCP6P6P"]),
  (["changeswhencasefolded", "cwcf"],
    String.join [
    "aTPbI0AM17W010101010101010101010101010101010101010101010101010101020101010101010101110101010",
    "10101010101010101010101010101010101011101010111011122311123111101011102011121011307111111010",
    "10101010101020101010101010101021101210101010101010101010101010101010101010101010101010101010",
    "107111201310101010fU0a60103080601210111G18M0C231101010101010101010101010112110112aEaC0101010",
    "10101010101010101010101010901010101010101010101010101010101010101010101010101010111010101010",
    "10201010101010101010101010101010101010101010101010101010101010101010101010101010101010101010",
    "1010102a1aC0bzWa11050vI5bhI96a622hW010101010101010101010101010101010101010101010101010101010",
    "10101010101010101010101010101010101010101010101010101010101010101010101010101010101010101010",
    "51201010101010101010101010101010101010101010101010101010101010101010101010101010101010101010",
    "101010109785A78785B010101087GaB22255225B3C45225h903160a9FJ0vQPay4aBaC01220101013102082101010",
    "10101010101010101010101010101010101010101010101010101010101010101010101010101010101010101010",
    "801040agdL010101010101010101010101010101010101010101010J010101010101010101010101010cR0101010",
    "10101030101010101010101010101010101010101010101010101010101010101010A01011101010104010201030",
    "1010101010101010101414101010101010101310111010101010101010O0xQb7uqK6C4abPPagXa3cSZdCA1E1611a",
    "w6aEdDLcaUVwj0VaSOagkJX"]),
  (["changeswhencasemapped", "cwcm"],
    String.join [
    "aTP6PaM0AM1U1aR1bB1R2D21104bK1H6Q1110113113142011207020113550A1dM0a632132106012101J1aA3W141c",
    "O8dL1a1Aa2bzWa110502a622rObD25bhIA5a622e5030G0c5dB201c9252a125271010101U2aG1610321633254C521",
    "6h903160R0HV31vPaFaxEc411117bT7331Ca11050agbYa9IRcQD2aP9E32241O1a8O1wW0Sb7uqK6C4abPP6Pag1b7b",
    "OZ4Zc8A1E16111A1E1611av3aEDaEbLLALbzYaRwi4aRWO2OagjSaV"]),
  (["changeswhenlowercased", "cwl"],
    String.join [
    "aTPbTM16X01010101010101010101010101010101010101010101010101010102010101010101010201010101010",
    "10101010101010101010101010101010101110103110111223111231111010111020111210113071111110101010",
    "10101010201010101010101010211012101010101010101010101010101010101010101010101010101010101071",
    "11201310101010h10103080601210111G18Z08010101010101010101010105020112aEaC01010101010101010101",
    "01010101010109010101010101010101010101010101010101010101010101010101110101010101020101010101",
    "01010101010101010101010101010101010101010101010101010101010101010101010101010101010102a1cb9a",
    "11050t2bDbhZ06a622hW010101010101010101010101010101010101010101010101010101010101010101010101",
    "01010101010101010101010101010101010101010101010101010101010101010101010101010901010101010101",
    "010101010101010101010101010101010101010101010101010101010101010101010101010101010109785A7878",
    "5B010101087O7878784B4B3C4B4h903160a9FJ0vQPay4aBaC0122010101310208210101010101010101010101010",
    "101010101010101010101010101010101010101010101010101010101010101010101010801040agdL0101010101",
    "01010101010101010101010101010101010J010101010101010101010101010cR010101010101030101010101010",
    "101010101010101010101010101010101010101010101010A0101110101010401020103010101010101010101014",
    "14101010101010101310111010101010101010O0wuVPagXa3cSZdCA1E1611aw6aEdDLcaUVwj0VaSOagkJX"]),
  (["changeswhentitlecased", "cwt"],
    String.join [
    "bPPaM0a5N17101010101010101010101010101010101010101010101010101010102010101010101011101010101",
    "01010101010101010101010101010101010102010122010203050203220201010204020301020301040111110101",
    "01010101010111010101010101010121010301010101010101010101010101010101010101030101010101010101",
    "080211040101010151110113113142011207020113550A1dM0a70103032I0RY11321010101010101010101010141",
    "02020aGaB10101010101010101010101010101010109010101010101010101010101010101010101010101010101",
    "01010201010101010111010101010101010101010101010101010101010101010101010101010101010101010101",
    "01010101010101010101010aDa2cxO5bhI810fM030G0c60101010101010101010101010101010101010101010101",
    "01010101010101010101010101010101010101010101010101010101010101010101010101010101010101010101",
    "01010101016501010101010101010101010101010101010101010101010101010101010101010101010101010101",
    "01010101010101885A78785A7878D2787878411603211832187A211iI0XF40wFPayQaB10311010106020A0101010",
    "10101010101010101010101010101010101010101010101010101010101010101010101010101010101010101010",
    "801040Ca11050agbZ010101010101010101010101010101010101010101010J010101010101010101010101010cR",
    "010101010101030101010101010101010101010101010101010101010101010101010101010A0102010101010404",
    "01120101010101010101010B01010101010101040102010101010101010Q0wW0Sb7uqK6C4acLPah5a3cSZdBA1E16",
    "11awVaEcHLcaUVwj0VaNOagkQX"]),
  (["changeswhenuppercased", "cwu"],
    String.join [
    "bPPaM0a5N17101010101010101010101010101010101010101010101010101010102010101010101011101010101",
    "01010101010101010101010101010101010102010122010203050203220201010204020301020301051111110101",
    "01010101011101010101010101011111030101010101010101010101010101010101010103010101010101010108",
    "0211040101010151110113113142011207020113550A1dM0a70103032I0RY1132101010101010101010101014102",
    "020aGaB1010101010101010101010101010101010901010101010101010101010101010101010101010101010101",
    "01020101010101011101010101010101010101010101010101010101010101010101010101010101010101010101",
    "010101010101010101010aDa2cb8a622u45bhI810fM030G0c6010101010101010101010101010101010101010101",
    "01010101010101010101010101010101010101010101010101010101010101010101010101010101010101010101",
    "01010101010101650101010101010101010101010101010101010101010101010101010101010101010101010101",
    "010101010101010101885A78785A7878D2aG114010321140332187A21140iD0XF40wFPayQaB10311010106020A01",
    "01010101010101010101010101010101010101010101010101010101010101010101010101010101010101010101",
    "01010801040Ca11050agbZ010101010101010101010101010101010101010101010J010101010101010101010101",
    "010cR010101010101030101010101010101010101010101010101010101010101010101010101010A01020101010",
    "1040401120101010101010101010B01010101010101040102010101010101010Q0wW0Sb7uqK6C4acLPah5a3cSZdB",
    "A1E1611awVaEcHLcaUVwj0VaNOagkQX"]),
  (["dash"],
    "a90al40aF0cwD0abL0be55aP0a30F0jU0cgG020V140S0lE0J0c30bdeS1a10A0dP0cx80hU0"),
  (["defaultignorablecodepoint", "di"],
    "dT0rP0sW0cb21arZ1bD4bdR4Q4aDFdpK0bcxZFfN0dG0b78ayoJ3eqZ7aftx5diR"),
  (["deprecated", "dep"],
    "i50ajP0bl3010bf11bjD5sD1akhp60"),
  (["diacritic", "dia"],
    String.join [
    "bM010aZ0604021mZdE1755H14091g14eT0aJa810111110cN741cQ14132aVQbJAaMAY1cI7a59GRaP0G033S0b20G0c",
    "20G0c20G0aB2aO0G070cB0c20G0c20G0c11G0cG0c30C510bZ0D4b31R0101041aU211aQ0c4011a4144P610A1sL2zC",
    "1U0d4A90iN2h40K720aCE2A3E2Bb00F0a28aI1aM0B1aU1aS5bAO406022aEaQaCZ5Ba1AlD012B2D2D2D1cn02hT0n2",
    "5bX3bN0afc60C110S1bA1EXbU2bU061C0a10d70RHaL3a00bN0C0a00d52aT3aF0bS492cK1uq40uDFgI010aB0a91aV",
    "0u80afV51a518qP240dL1oV5a20Q4k0022aYAaD3eC0a50b01cC1aQ0b4092bW1dY1b81G0O634bH211D1bN030cF1fZ",
    "1cI0cA1c70gH1g6140dC0bB0I0b90kP0g6011b90aT0iZ1N0erSElfX0bqC4aN6oO1o6Gb81qm231611hlHa92Mo4235",
    "8726U3cy6aPeE6jF0aP3uA1tG6c1212"]),
  (["emoji"],
    String.join [
    "Z06059c3040hpD0C0f00M0bI5F1j71C0dM0PA42eJ0fF1A090aM314902021204020112030318250105BB1201110I0",
    "21I5101131502141B15120511011K155132040202510201010603060A1F02040104210B1aC290E0E0jC1lV2J1aF0",
    "40ahI0C0pP010dquE0eM0dG1C1E029b3P11N0K028L1dUX2c321122bA221gA1aQB51N7127C0232041D120819052C2",
    "8220104060306bDaCaX57233930113029fBB40gVaA191e4c4C3A3aK104F2B49"]),
  (["emojicomponent", "ecomp"],
    "Z06059hrB0eX0bhlR0bnqYPn34anG3afiy0bN"),
  (["emojimodifier", "emod"],
    "efsF4"),
  (["emojimodifierbase", "ebase"],
    String.join [
    "jk10f30G3duxF0aO22022c912ALI3042127010O0eL140L041dU234bB0G290B0oZ02087609922aK0aP11110H21CfD",
    "2a68"]),
  (["emojipresentation", "epres"],
    String.join [
    "ioM1eP33020nH1L1aEBa70J0D081H1518050L0711040207041S0Z0104210aP2O0E0wV1aF040dsu20eM0eA029b3P1",
    "0O0K02412L1dUWC81aX1LCa644CG303aY101e62aQD31NI0Q1D0bEbCaCaX60322333B178fBB40gVaA191e4c4C3A3a",
    "K104F2B49"]),
  (["extendedpictographic", "extpict"],
    String.join [
    "dP040hpD0C0f00M0bI5F1j71C0dM0PA42eJ0fF1A090aM314902021204020112030318250105BB1201110I021I510",
    "1131502141B15120511011K155132040202510201010603060A1F02040104210B1aC290E0E0jC1lV2J1aF040ahI0",
    "C0pP010dquE0a33bSBF1F0E1a19c41C1E029JaJREA0K028139M6e72c321122bA22135g11aQB51N7127C0232041D1",
    "20819052C28220104060306bDaCaX572G30152Cf2a1C3aK7A5a47U1C32D9a2CaA191e4bG7Ed1g4abD"]),
  (["extender", "ext"],
    String.join [
    "e30nW1xE0l90qI0cT0bH0tW0cJ0bmV0aK0pZ0k20aW0ehX0a74bV1bL2adiY0apE0zQ0M0cT0c00L1wbR0beC1ao70R0",
    "40agZ0h50c81mU2ah70w40udG1afS110E1adyK1agD0wO2"]),
  (["graphemebase", "grbase"],
    String.join [
    "WbMXC1pHc472546101J1f77dL1a12aD22aA01020209Q45H9B01a9LF1bS8061204V201TTbGB0Ea6963N4090307E1O",
    "501A5VGa5aLaI10138312792S1117212L1610333011612110D1124N5015412L1611111142O310792210C018121L1",
    "6111433801130F14B708117212L16111430206121F1124HB015321331101131323B5011321230LK6217121M1F303",
    "3J2112149791A121M1914312011N2114912EA121a4201152121142194P211H3N18102691667922CaB11B78Ca1110",
    "141N1019119024109923WN2Q10101D1ZI05024aD7151Ca1a84060212O233F4C11251E1a310502jG132610132a413",
    "2W132610132E1aK132aU5S3P6bD252rK3bG7HDI319HEC12FaF207711B839696A596bG742X105aXAU43224115703a",
    "524Ba74P6A3aK213aJ10901185D9696DbEaBA3371S9B2V416aJ102210DaB815E3aP5a62AB0D0731512205eBaSgP2",
    "52a125271010101U2aG1E1D251I22181A5N7aCG12Q1C3XaQcV4rHMALaxB2jG315a810502aJ71FM96161616161616",
    "16XbLYP1bGCeXQaL6F1bD4bS5a61bL1bD9aB1aegO3aI9iNKaA40AV2b7258f4KG12131O24496aJ8aVABOC1a18OB0C",
    "T6aB1141211C1A461O1a46121B21710292V1aE1031242010OG27B5252596161aN4c81113396kxBCM4aChzSj52bXa",
    "26C4501N141011111r1WFG9MY1I13441cQ4dC2U352525223616D12B1P1I111E2DYcE524a83bF1C30aBa8cNS3aCGQ",
    "4Z9T5a1AT1a04Da6dD296Z4Z4a38aFBB1E16111A1E16113aFChM9LA7O51a518aX5201a711302M1aZ88aCI115W3Q5",
    "Qa2aJ4J2aAF3121SA8787aRWa06B9aH3S2Q5P73C6b8b0aJaEDaE7a5C96a18N81eSU1a53021G588a3a38LB8MH43a2",
    "RKM901aHF64T1120CaC412113EO799Z509H8Y12BaF9017411F1JBH1R314511aR610131E1A6aA12D98117212L1611",
    "14301013212130C6S910201a11011F011301211a3aJ81301K1012UaB11601110202389dMaA1163202Qa0aE811023",
    "B96CJa6101181696JSQ3011409Me5aA9020bSbAC72027111N1411631299aY72a58313R0Aa3614790613a9D028Db0",
    "79bF03010bGXE9681a1E015AS3VP07020b36111a1L09965111a0411010796a749fUI239E1Z813MbE0FaDDyMbUc21",
    "4BeFbu8bQDacRH5PdfY5p6gh1TC239av6oS7U194b8196T70AaB7EA9161K5Il0aLeIbI5O2Oa8b25aJBCaS3E49gw1a",
    "5VbPc6igP316111h2F0T220E38jZbl4bY5C38792020deCg03l36MFGbNc7aOfTAa22aN52M17T4aOLaT30cEJCJCbE9",
    "OcRbC1aY112021231B10161aS1327161R131410361iF2h32oLaJ3aE71D16aeOU65g9aPd2a8A62941hWTIa74950lW",
    "R49eYT2A40eCU1211162491f8613111E1eG28aCaV704941uTaVb4aOeE31Q11102019131010604010101211102010",
    "10101011102316131310191G52141GaG1gIa74bRCE2E1E1a0AdTaKSDa74871E5dAaaC3G3C3f16B40FB4aJ896a38T",
    "2B41E8a3iJ8D2C3A3aK104F2B497d21bUabLaspNWdqP2fdD2gyKFq9bpIo1aoUeg65iaT"]),
  (["graphemeextend", "grext"],
    String.join [
    "uCc3gN6gBa810111110b0AaCKG0bT6252113Z0UQbJAaM890O3181214a72aN8a6N1VaJ010474036A1T0aM01023809",
    "0A1Q021aL041412230U130B1aL0441140K1M510aM011138072A1U0aN010C090a4030aJ012521371B1T0aM0211032",
    "1371B1S1aL110238090A1T0b0040221080b9026C7bQ028B6b11R01010aJD14115A1Z90bU3151121P142G3D02160F",
    "0sJ2zA3S2T1U1aS116802A90a9210c91Y0cA2419062f3120aM0161010276920aCa92BK3aC942a28C1W325aK01130",
    "14aK721d821C16406031eIaRnK0eFWcgA2cX0bOVoE5bX1afeW319W1b81gK03040P150d71QHD0a27PA10a82aC0232",
    "120a00aV52121C080aB0aF012215110a6180fM02040uq40tHFGFj61pT0fA0d54atE21153a4240dL1oX3aT4hT1b55",
    "aYAaD3cF0aIEa5021A2aD32170aP2a0417aQ0C1aG8108320bN2236020dD037L1aL11010C090E634aV02510201242",
    "10E1bD72210N0b902510201111fJ0236111R1bD72011bY01027bT0102314g7811fT0A340d032140W9a4523809522",
    "aAC11eI01210eL61510bAL261111cE530111610b013010iN1B1aG452N0erL06ElfGB32bqC4aN6ac40aR3b90B1ty7",
    "1dzPa92Mo24358726U3d42bbZaI4aD80E0M41EakS61G261114bS0dG6jF0aP3n43g21fR0207150m66c16afnkPbNcK",
    "fN"]),
  (["hexdigit", "hex"],
    "aC975Q5bqpX975Q5"),
  (["idsbinaryoperator", "idsb"],
    "mbW129mT0"),
  (["idstrinaryoperator", "idst"],
    "mbY1"),
  (["idsunaryoperator", "idsu"],
    "mcA1"),
  (["idcompatmathcontinue"],
    "dY150hqI03A1EjB040M0dojY0P0V0P0V0P0V0P0V0P0"),
  (["idcompatmathstart"],
    "igU040M0dojY0P0V0P0V0P0V0P0V0P0"),
  (["idcontinue", "idc"],
    String.join [
    "aC97P401PaB0A010205M1U1lP4BE47010Hc811231064101J1bA1cU142dL1a1206a48a8101111108Q43TA5b14bT17",
    "291I20GaM2bSEaH40202a9IR4A5N167b21cK291I17212L1610332821238041142BA0102215412L16111111201441",
    "223073107FB218121L16111429121220F329961217212L1611142821227241142910G115321331101131323B4432",
    "132060E9GC121M1F2812137112112329G317121M19142812137152132912CC121aE1214537429A5121H3N1810263",
    "04510176921DaL5E19a3110141N101M2410161923W0N169B01010491Z4J1H1Z90aLb16b52a110502a61i81326101",
    "32a4132W132610132E1aK132aU2298EFGbD253q72G1P5b23A7L9LBJCC1211CbB304129X21A6bG7a65aXAU1B4BAa3",
    "24Ba74P6Aa1R4aQ1S2A69D08D1U2BKb439H8Cc7CaJ893aC2A5a622G21a25nT252a125271010101U2aG1610321633",
    "254C5216F1aD1J0S0D0GCaFC403BH0402910256010101F235440Ha4bvFfC68Ca110502aJ70FN9616161616161616",
    "1VnD2PE14244bD261bM5a61bLHVaCFn8ga3aSwqGaVa92gG3RKaB491c6a182bU2b9KaI40JaFCaXA96N301aC2ZCS3a",
    "SEA6U1aI9D296M3b0O22F24A5252596161a61D6cE11296kxBCM4aChzSj52bXa26C45B1C141011111bZXj2IaR2aHa",
    "4B4FGF31O2W41cQJ97P401PAbH35252522ZB1P1I111E2DYcEaXaGcS0cMS3aCF0VVDT5a65T2Z4714a6dD296Z4Z4a3",
    "8aFCA1E16111A1E16113aFChM9LA7O51a518aX5201a711302MAM9UaTI11ALAP6Pa2aJ61aS31157121S2240WS3SZ7",
    "1TPaHALAIDHc2b0aJaEDaEDa3896a1341MfYa51131G5aEYA08WVLa6KRM9aYVF9aN70DO796aG19438Z209aW431C10",
    "ZH1a063aQ610131E197aM596317212L1611141921222060562634B910201a11910201317D1Tb25943UaX1089dMaH",
    "28N5YaS30B9a2aK796JSQ2E4966e5aMbTb1L72027111T1128C9aY72a92711RaQ808b130Ib0bV7bGWF9681a818F9O",
    "T2L1Db16111a73011188965111a01115796a749fUM9G1a434DAbD0b7yLbUc2HeFbu8bOFacRGLAdfY5p6gh1aLav6o",
    "S7U196b6196T24BaI93C99K5Il0a839eIaRWO2Oa8b24aK7GaS111B69gw1a5VbPc6igP316111h2F0T220E38jZbl4b",
    "Y5C387931dl19nEa92Mo24358726U3d42lBbC1aY112021231B10161aS1327161R131410361iF2O1O1U1O1U1O1U1O",
    "1U1O172aDn8aI4aD80E0M41EadOU65eX61G2611145aPX0c4a83D2940hXUHaLm2a5eYa6eHU1L81f8613111E1eGB6a",
    "5b349ag231Q1110201913101060401010121110201010101011102316131310191G52141GcoW9abMaspNWdqP2fdD",
    "2gyKFq9bpIo1aoUeg65iaTacbbUfN"]),
  (["idstart", "ids"],
    String.join [
    "aTP6PaB0A0405M1U1lP4BE47010cL41123106012101J1bA1cU8dL1a1206a4aZQ43a9a6Z11bQ10F171A220G01TTbG",
    "B0OW91405L409030NO7A5N16Ga5aMaH30I079FF47212L16103330G0D112E1A085412L16111111V310J2G8121L161",
    "11430I0F1N0B7212L16111430U112F0H015321331101131323BM0aG7121M1F30Q21121U047121M191430U211F1H8",
    "121a420G05282O55H3N181026aMaB11C6aM110141N101911902410L3W0aR71ZR4c7a6K0G5433031724CC0Ha11050",
    "2a61i8132610132a4132W132610132E1aK132aUa1FGbD253q72G1P5b23A7HDIEHEC12FaFZ040aVbG7a4105aXAUaD",
    "T24Ba74PaIM9aGbA0bLaAH7aITD1Aa7QZa52AZ2A5a622a531511305eBaSgP252a125271010101U2aG16103216332",
    "54C5216c80D0GCbT0402910256010101F235440Ha4bvFfC6331Ca110502aJ70GM9616161616161616oA2P874244b",
    "D441bH135a61bLHVaCFn8ga3aSwqGaVa92gG3FA1KaAGU2b7a382bU2b9KG12131MTaFEaDaQ53011BRAMPS7aAS0G41",
    "9A41a4N217KM303aD1031242010O22A72C5252596161a61D6c6TkxBCM4aChzSj52bXa26C450191C141011111bZXj",
    "2IaR2aHa4Bc841cQa0P6PBbG35252522ZB1P1I111E2DYcEaXaGgFS3aCaBVDT5a1AT2Z4714a6dDIZ4Z4a38aFCA1E1",
    "6111A1E16113aFChM9LA7O51a518aX5201a711302MAM9UaTI11ALAP6Pa2aJ61aS0F3121Sa6S3SZ71RRaHALAIDHc2",
    "b0aJaEDaEDZa2R9MfYa561G5aKSA08La6HaAKRMCaGaL120Da8WOQZT0208Y30CaBE3L010ZH1OJ1aR610131E197aAa",
    "27212L16111430I0C4U910201a110P010a8aGI3K2UaBK110e4aAa53a0aBK0aNa6D0aZQa16e5a7c8aRV72027111NF",
    "010bM72a2G010S0Aa370L0Ba9J0Ib0eJWV81a0H0aDTc46111a1L0P5111VE0Na7g8IF01C1XcG0b7yLbUc2HeFbu8bO",
    "FacRH5PdfY5p6gh1TavYoS7UHb6HTIaBG3VK5Il0a8eVaRWO2Oa8b250aUCaS110E49gw1a5VbPc6igP316111h2F0T2",
    "20E38jZbl4bY5C3879fjEbC1aY112021231B10161aS1327161R131410361iF2O1O1U1O1U1O1U1O1U1O17ay8U65g9",
    "aPd2a8A6G0hXTIa7mGRfCT20eRU1211162491f8613111E1eGaNaV70agG31Q1110201913101060401010121110201",
    "010101011102316131310191G52141GdrSaspNWdqP2fdD2gyKFq9bpIo1aoUeg65iaT"]),
  (["ideographic", "ideo"],
    "mcI1P8E2zTga3aSvk3xhWj52bXaezA0D49gw1a5VbPc6irDjZuaOaspNWdqP2fdD2gyKFq9bpIo1aoUeg65iaT"),
  (["joincontrol", "joinc"],
    "hsW1"),
  (["logicalorderexception", "loe"],
    "cwC4cF4byS220ampY12011"),
  (["lowercase", "lower"],
    String.join [
    "bPPaB0A040a0N1710101010101010101010101010101010101010101010101010101011101010101010101110101",
    "01010101010101010101010101010101010101010201012201020314020322020101020111020301021226020201",
    "01010101010101110101010101010101120103010101010101010101010101010101010101010101010101010101",
    "01016202110401010101aW2Y71U4bO0a70103023I0RY1132101010101010101010101014102021aFaB1010101010",
    "10101010101010101010101090101010101010101010101010101010101010101010101010101020101010101011",
    "10101010101010101010101010101010101010101010101010101010101010101010101010101010101010101010",
    "1010aCa4cb7a613u45bhI810c9eBaT01010101010101010101010101010101010101010101010101010101010101",
    "01010101010101010101010101010101010101010101010101010101010101010101010101010101010101810101",
    "01010101010101010101010101010101010101010101010101010101010101010101010101010101010101010101",
    "885A78785A7878D2787878411603211832187A211cD0D0GCc103130R04040218340XF40wFPayQaB1031101010401",
    "11730101010101010101010101010101010101010101010101010101010101010101010101010101010101010101",
    "01010101011701040Ca11050agbZ010101010101010101010101010101010101010101010J010101010101010101",
    "010101012cP010101010101210101010101010101010101010101010101010101010101010101010101019101020",
    "10101010401020121010101010101010101050501010101010101040102010101010101010L31012vTa61D6b7uqK",
    "6C4acLPah5a3cSZdBA1E1611lJ0221a518aiPaEcHLcaUVwj0VaNOaar6PQ61HQPQ310161AQPQPQPQPQPQPQPQPQRSO",
    "15QO15QO15QO15QO1510ay891J65g9aPbiWX"]),
  (["math"],
    String.join [
    "a70G2V0T010a9040a10V0t8220Q122nN2gc90R2B030D0E3L4B4aTC403144I04029102560312112153D10aWN15114",
    "14V1061EgF83K1bI0UQ10O0B6lD1C945412134E01025B751aL010T392iCaRg4n7aCK25bdv40vV510dI0G2T010T01",
    "0cN063crX1azw40aiZbC1aY112021231B10161aS1327161R131410361iF2h32aDezG31Q111020191310106040101",
    "0121110201010101011102316131310191G52141GaG1br68"]),
  (["modifiercombiningmark", "mcm"],
    "as0120cN06031mD11230V0"),
  (["noncharactercodepoint", "nchar"],
    "bqjWVnM1bqzE1bqzE1bqzE1bqzE1bqzE1bqzE1bqzE1bqzE1bqzE1bqzE1bqzE1bqzE1bqzE1bqzE1bqzE1bqzE1"),
  (["patternsyntax", "patsyn"],
    "XEA6Q310Q3Y610111011404030N0V0hm4N8E2I19hHsZdGqHUaeFn8cJjP24OF0bdb51g91"),
  (["patternwhitespace", "patws"],
    "94I0bS0hp81O1"),
  (["prependedconcatenationmark", "pcm"],
    "apO5eZ0aD0jO1b80btdA0F0"),
  (["quotationmark", "qmark"],
    "Y040cN0F0ho07P1cuR0lP3D2bdiT3e9040bI1"),
  (["radical"],
    "lrOP1bGCeX"),
  (["regionalindicator", "ri"],
    "efdMP"),
  (["sentenceterminal", "sterm"],
    String.join [
    "X0C0G0akL0d32e00a72fU0aP01031h51aw01uY041uH0eI1dD1a9050hQ1iU3dI1A121T2e71aT1yW0N192cl72hI0D0",
    "M1kX0aeyW0gI1fB030jM1bE1bN0d81d32d01fX0vl6021aN031dP0C0G0aT0byW1aiH4a83e91c93cJ2cL160G1bG111",
    "c00hA1c91jD15EbX1fX2nD010fZ1bF1kO1s81b21tnH1cP0aT1B0oD1h80uhU0hdO0"]),
  (["softdotted", "sd"],
    String.join [
    "bX1eG0gT0U0aG0K0hW0bQ010fv10aF0D030cO0dD0kP0eY1caM0dkvL1aE1aE1aE1aE1aE1aE1aE1aE1aE1aE1aE1aE1",
    "bhM0hH1Q0"]),
  (["terminalpunctuation", "term"],
    String.join [
    "X0A010B130w2080n90aL0b00E012e00a7A10fJ1aI517V0g91ai81dS045hN1uX7uH0cG2aZ1dD230a3321hQ1iU3dI1",
    "A112T2e74aQ1yW0N192cl72hI0D040A01131kW1aeyV1gH2fB4jM1bE1bN0d72d32cJ0G1fX0vl6021aL213dP0A010B",
    "130aT020ad20aC0af60eJ0hM1d85aW5bH3zG4a83e96c43cJ2cL160G1bG4c00hA1c92C1iY33EbX1fX2nD010fZ1bF1",
    "41kI2a90qX1b21ajR4scL1cP0aT2A0oD1h71uhU0hdN3"]),
  (["unifiedideograph", "uideo"],
    "neSga3aSvk3xpE11011A0101122bsoYaspNWdqP2fdD2gyKFq9duEeg65iaT"),
  (["uppercase", "upper"],
    String.join [
    "aTPbTM16X01010101010101010101010101010101010101010101010101010102010101010101010201010101010",
    "10101010101010101010101010101010101110103110111223111231111010111020111210113070202020101010",
    "10101010201010101010101010202012101010101010101010101010101010101010101010101010101010101071",
    "11201310101010h10103080601210111G18Z0223010101010101010101010105020112aEaC010101010101010101",
    "01010101010101090101010101010101010101010101010101010101010101010101011101010101010201010101",
    "0101010101010101010101010101010101010101010101010101010101010101010101010101010101010102a1cb",
    "9a11050t2bDbhZ06a622hW0101010101010101010101010101010101010101010101010101010101010101010101",
    "01010101010101010101010101010101010101010101010101010101010101010101010101010109010101010101",
    "01010101010101010101010101010101010101010101010101010101010101010101010101010101010109785A78",
    "785B010101087b03C3C3C4B3gA040322220346010101323A150QFJ0vQPay4aBaC012201010131020821010101010",
    "10101010101010101010101010101010101010101010101010101010101010101010101010101010101010108010",
    "40agdL010101010101010101010101010101010101010101010J010101010101010101010101010cR01010101010",
    "1030101010101010101010101010101010101010101010101010101010101010A010111010101040102010301010",
    "101010101010101414101010101010101310111010101010101010O0wuVPagXa3cSZdCA1E1611aw6aEdDLcaUVwj0",
    "VaSOaar7PQPQPQ01120212317QPQ1132716R113141036RPQPQPQPQPQPUOXOXOXOXOX0drDXbeAP6P6P"]),
  (["variationselector", "vs"],
    "fnZ210bjw4FahzzOfN"),
  (["whitespace", "wspace", "space"],
    "94I0bS0Q0eyJ0boJAT150aB0dg40"),
  (["xidcontinue", "xidc"],
    String.join [
    "aC97P401PaB0A010205M1U1lP4BE47010Hc811321064101J1bA1cU142dL1a1206a48a8101111108Q43TA5b14bT17",
    "291I20GaM2bSEaH40202a9IR4A5N167b21cK291I17212L1610332821238041142BA0102215412L16111111201441",
    "223073107FB218121L16111429121220F329961217212L1611142821227241142910G115321331101131323B4432",
    "132060E9GC121M1F2812137112112329G317121M19142812137152132912CC121aE1214537429A5121H3N1810263",
    "04510176921DaL5E19a3110141N101M2410161923W0N169B01010491Z4J1H1Z90aLb16b52a110502a61i81326101",
    "32a4132W132610132E1aK132aU2298EFGbD253q72G1P5b23A7L9LBJCC1211CbB304129X21A6bG7a65aXAU1B4BAa3",
    "24Ba74P6Aa1R4aQ1S2A69D08D1U2BKb439H8Cc7CaJ893aC2A5a622G21a25nT252a125271010101U2aG1610321633",
    "254C5216F1aD1J0S0D0GCaFC403BH0402910256010101F235440Ha4bvFfC68Ca110502aJ70FN9616161616161616",
    "1VnD2PE14244bD21221bM5a61bLHVaCFn8ga3aSwqGaVa92gG3RKaB491c6a182bU2b9KaI40JaFCaXA96N301aC2ZCS",
    "3aSEA6U1aI9D296M3b0O22F24A5252596161a61D6cE11296kxBCM4aChzSj52bXa26C45B1C141011111bZXcU6f1Ia",
    "R2aHa496FGF31O2X010301010101cHJ97P401PAbH35252522ZB1P1I111E2DYcEaXaGcS0cMS3aCF0VVDT5a65T2Z47",
    "14a6dD296Z4Z4a38aFCA1E16111A1E16113aFChM9LA7O51a518aX5201a711302MAM9UaTI11ALAP6Pa2aJ61aS3115",
    "7121S2240WS3SZ71TPaHALAIDHc2b0aJaEDaEDa3896a1341MfYa51131G5aEYA08WVLa6KRM9aYVF9aN70DO796aG19",
    "438Z209aW431C10ZH1a063aQ610131E197aM596317212L1611141921222060562634B910201a11910201317D1Tb2",
    "5943UaX1089dMaH28N5YaS30B9a2aK796JSQ2E4966e5aMbTb1L72027111T1128C9aY72a92711RaQ808b130Ib0bV7",
    "bGWF9681a818F9OT2L1Db16111a73011188965111a01115796a749fUM9G1a434DAbD0b7yLbUc2HeFbu8bOFacRGLA",
    "dfY5p6gh1aLav6oS7U196b6196T24BaI93C99K5Il0a839eIaRWO2Oa8b24aK7GaS111B69gw1a5VbPc6igP316111h2",
    "F0T220E38jZbl4bY5C387931dl19nEa92Mo24358726U3d42lBbC1aY112021231B10161aS1327161R131410361iF2",
    "O1O1U1O1U1O1U1O1U1O172aDn8aI4aD80E0M41EadOU65eX61G2611145aPX0c4a83D2940hXUHaLm2a5eYa6eHU1L81",
    "f8613111E1eGB6a5b349ag231Q1110201913101060401010121110201010101011102316131310191G52141GcoW9",
    "abMaspNWdqP2fdD2gyKFq9bpIo1aoUeg65iaTacbbUfN"]),
  (["xidstart", "xids"],
    String.join [
    "aTP6PaB0A0405M1U1lP4BE47010cL41132106012101J1bA1cU8dL1a1206a4aZQ43a9a6Z11bQ10F171A220G01TTbG",
    "B0OW91405L409030NO7A5N16Ga5aMaH30I079FF47212L16103330G0D112E1A085412L16111111V310J2G8121L161",
    "11430I0F1N0B7212L16111430U112F0H015321331101131323BM0aG7121M1F30Q21121U047121M191430U211F1H8",
    "121a420G05282O55H3N181026aMaB10D6aM110141N101910A02410L3W0aR71ZR4c7a6K0G5433031724CC0Ha11050",
    "2a61i8132610132a4132W132610132E1aK132aUa1FGbD253q72G1P5b23A7HDIEHEC12FaFZ040aVbG7a4105aXAUaD",
    "T24Ba74PaIM9aGbA0bLaAH7aITD1Aa7QZa52AZ2A5a622a531511305eBaSgP252a125271010101U2aG16103216332",
    "54C5216c80D0GCbT0402910256010101F235440Ha4bvFfC6331Ca110502aJ70GM9616161616161616oA2P874244b",
    "D621bH135a61bLHVaCFn8ga3aSwqGaVa92gG3FA1KaAGU2b7a382bU2b9KG12131MTaFEaDaQ53011BRAMPS7aAS0G41",
    "9A41a4N217KM303aD1031242010O22A72C5252596161a61D6c6TkxBCM4aChzSj52bXa26C450191C141011111bZXc",
    "U6f1IaR2aHa49cB010301010101cHa0P6PBaJ2U35252522ZB1P1I111E2DYcEaXaGgFS3aCaBVDT5a1AT2Z4714a6dD",
    "IZ4Z4a38aFCA1E16111A1E16113aFChM9LA7O51a518aX5201a711302MAM9UaTI11ALAP6Pa2aJ61aS0F3121Sa6S3S",
    "Z71RRaHALAIDHc2b0aJaEDaEDZa2R9MfYa561G5aKSA08La6HaAKRMCaGaL120Da8WOQZT0208Y30CaBE3L010ZH1OJ1",
    "aR610131E197aAa27212L16111430I0C4U910201a110P010a8aGI3K2UaBK110e4aAa53a0aBK0aNa6D0aZQa16e5a7",
    "c8aRV72027111NF010bM72a2G010S0Aa370L0Ba9J0Ib0eJWV81a0H0aDTc46111a1L0P5111VE0Na7g8IF01C1XcG0b",
    "7yLbUc2HeFbu8bOFacRH5PdfY5p6gh1TavYoS7UHb6HTIaBG3VK5Il0a8eVaRWO2Oa8b250aUCaS110E49gw1a5VbPc6",
    "igP316111h2F0T220E38jZbl4bY5C3879fjEbC1aY112021231B10161aS1327161R131410361iF2O1O1U1O1U1O1U1",
    "O1U1O17ay8U65g9aPd2a8A6G0hXTIa7mGRfCT20eRU1211162491f8613111E1eGaNaV70agG31Q1110201913101060",
    "401010121110201010101011102316131310191G52141GdrSaspNWdqP2fdD2gyKFq9bpIo1aoUeg65iaT"])]

def property? (name : String) : Option CharSet :=
  (properties.find? fun row => row.1.contains name).map fun row => CharSet.ofTable row.2

end Inquiry.Text.Property
