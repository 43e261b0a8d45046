import Inquiry.Text.CharSet

namespace Inquiry.Text.Property

/-- A property whose values divide the characters: the names of each value, without regard to case
and marks, and the value of every code point in Unicode 17, in runs. Label 0 is none of these
values, and the others count them from 1. -/
structure Division where
  values : List (List String)
  runs : String

def Division.value? (d : Division) (name : String) : Option CharSet :=
  (d.values.findIdx? (·.contains name)).map fun i => CharSet.ofRuns d.runs [i + 1]

/-- The characters that have the value of that name or one before it. -/
def Division.upTo? (d : Division) (name : String) : Option CharSet :=
  (d.values.findIdx? (·.contains name)).map fun i =>
    CharSet.ofRuns d.runs (List.range' 1 (i + 1))

/-- The version in which a character came. -/
def ages : Division where
  values := [
    ["1.1", "v11"], ["2.0", "v20"], ["2.1", "v21"], ["3.0", "v30"], ["3.1", "v31"],
    ["3.2", "v32"], ["4.0", "v40"], ["4.1", "v41"], ["5.0", "v50"], ["5.1", "v51"],
    ["5.2", "v52"], ["6.0", "v60"], ["6.1", "v61"], ["6.2", "v62"], ["6.3", "v63"],
    ["7.0", "v70"], ["8.0", "v80"], ["9.0", "v90"], ["10.0", "v100"], ["11.0", "v110"],
    ["12.0", "v120"], ["12.1", "v121"], ["13.0", "v130"], ["14.0", "v140"], ["15.0", "v150"],
    ["15.1", "v151"], ["16.0", "v160"], ["17.0", "v170"]]
  runs := String.join [
    "mY144U1841617I437B8E9bH15427aB114A154H7aY194168758372114D64A212A201139111G4071101110K110a811A",
    "7114261114111411141114I12516574814C114aU114C114a511A242644aH1262126212619S12481282169G649GA2B",
    "2C8G10a2120711Ka311K1114202G1D10H218D2A11991123880R1401K51B0471D1G5A1811975A111F1O18111CQ15AJ",
    "13437681CE126b01245114F114U127A15417E410U437R42037U8IAaD416E0aN9203KaAB20FB10SC201C10BJ50VO1S",
    "2O501R8O1D1GBD6G2H1O8IANBO1KFI1HRD1G1B3117aH12CI11B1C511B2CP12A5C1G2B2918291G311081202120M110",
    "711011304120111771202120311880114021105120L11B2J1K201711171061402120M110711021102110212011105",
    "140212031301A7041101170F11A1KA03110711711103110M110711021105120A1103110312011F0113720A11D1770",
    "1H6J10311081202120M11071102110174120811A20212031701N21402110312A20B1176CA02110613031104130211",
    "01110213021303130811831405130311041201A6011E018C187501G311K81103110N110A11G51201O1A7110311041",
    "7021102A1H101S1O20212A20A1701L8A1I1G211K81103110N110A11051202771103110417021501S1O1110212920A",
    "110291PC01J1G211N81103110N11CG11C2J1A611A103110411C1I403I117I1H212A20A16A3I7A101N2410I430O410",
    "9410142074301440641014108460AG2034C0aM140T1a10211011101L211L11101L116L411L711L31101110112L211",
    "LD11L312051101110611P10A120212DW0b0210X2142A40R24C62141210L2347214123410F4101A14283A4B2Ca10Y4",
    "1A541A241A743A446AQ4aSA4B2Aa21101D501D20a31262811183DbI15BaW15BbA16B7418aR4181410442074101410",
    "4420a341814104420V4181410442074101410442074187410N418V418141044207418a3418J4202C28S430Q860bD4",
    "1H206H201BqI49BT430b948G70D61O761O901ON690K6C0D610361026C0bL41720A460A760F41OA460bG41K70a641A",
    "50aYBA0T72G10C740C7401730a672057B0a682B40Q860A81B3028W7S82028aRB10TB20BB60AB60EB20FG2NEOFS20C",
    "SK0b491O102Ra992O1Ra7A3DCA6DaGC804CaKA30FA30aFA9I2R50a7K203K8D80ZB4D1J2G1L50c07bG879SAFG4J1O1",
    "I1C1B29dB1124AbI16AM1206120a212061208110111011101110V120aH110F110E1206110J12031109110aB114N11",
    "6645627281678561A104F711620R110588C30B112133426483B1C1E3G1H1J1O1SE0I1247618491AF0aL1241718F61",
    "8291A3BaC114194A1B2H40bJ194C6fQ1E61114cD11416U4aG627B8C91BBC7G4I1Ja11243RM0B1L0cV1K617d61A6b8",
    "18486K127261814bE124C628A687B81A2B27G819AA3B4AAB1CJB1C1B4COB1G411C412CS11CZ11C111C413C111B712",
    "C71E6V13CO11CE11C78491D1A1D2CS64AG6g44n86E768795A49a5A3G5A5BQG20WG1S1NYG3KCG1L8G1JPK4HFK1LaB8",
    "1OaB81OD93A1B3A496A2BbZ87B2D50a98101D501D20aI82D70181CE01CN8907810781078107810781078107810781",
    "0WAO84A28JA1BAD7G2I5J5K1L3NBOY0Q410bH4C0eY4Q0C44QaK13436141110bC126206126bM11650a411A1J1K10bM",
    "110G1O43C5NG8KA2R901QG6T12710a01CB17F6S12718aE1F6C147aB11McB147bR127V117fzU4ANaS7vhM1M88A8B1D",
    "9HLJ5KDN3OafD430I426G416C41634161490aCBhCAK0WA2CIA8DSA6G1H1DbGB80N8495A29bZA2C1H2C2DCGAC1D3G1",
    "I1K2G6H2K6L2O5L4N3R2S2O1S1O1S5O3RK01S3O2N1G2D1C5Aa881N30AB60aK980aXA1I80CA60SB2H2KbCAB01ATB30",
    "b6B10BB402BVG10aJA90EA20AA204ASB4GaVBO05BNDA06C206C206C907C107C10aCG4H2G2L4N40b8HaAB20AB60kxC",
    "2C0NB40aDBbe00gd612DaN63B20bY8a2071C0515014P1105110111021102110c01GC1OGSj51GOaS12SaI17S1OW5C1",
    "16172OG6A860413A7G2HL12627A110J110414031161110cR1201110bM126bM1306120612061203130711071A03413",
    "31C710Q710J7102710F720E7Y0cF7503740a973097b382G2I10CA1N301GaB0aAAcM0TA30aDAF0SG40V51G45903JR5",
    "50a7G50U71017a0840E8a60a2527a25b8720A760a0I40a0I40a4G80aGGB01GBO10FO107O102O10BO10FO107O102O3",
    "0aGRC0hNG90MGA08GO06O10a6O109OaX067201710a87102730172017MB109BaRG809GaC0JH102H505HQ92B3019QA5",
    "01AQSa20aKD402H2DGH20aAH4810285088103810R82K203840981K709870WBWGW0a3G40CG90aIB30TB20RB508BIG7",
    "04GC07Gb80b1BaJ0aFHD0aFH706Ha4K80AK60a2R30TR802ReS0VB10a6N103N202NG03R3S809SX02S1R3Pa4K80a6KM",
    "0QOa20SNK0NL90b6C40UC6O901GaUB1OA01K20PD70AD60aHD10ED3K1N80a3G90b1D4H1G2NAD1G5H10KGB0IG10a7G1",
    "I3PaQ07H101H104H10FH10BH60aNG50AG601H3G108G202G20MG107G102G105G101K9G202G203G201H601G507G207G",
    "305GB0AR101R201R10a2R10AR101R201R104R10AR102R802RT0bII1N1I101I1K1L2NU0b0G80AGdM0aIG20IGKHY0aX",
    "GB0AG60DIJ0aKD1L1O60AD60KRS0QH1K20FH40GH7Oe50aOKbS0bBGC01G7N201N208N102N10UN102N20CN90ANaY08L",
    "20aAL20BLR0b0J80aGJ2LNJ1K5JD0GOaLG70APbE08SbG0YRE0AR609I10a9I10EIA0TI30WI20MI10EIb107J102J10a",
    "8J301J102J109J80AJ606K102K10a1K102K106K70AK60a8S40ASfU0PK70HP10a5P30SP1RbD01NF0aELD01LxF9a6G1",
    "HbU0bR9CG10491GB0eGHbu80bROD0acRB1P9LTPA0dfZR50p7Hgh10aMRav60oTC70VG10AG402Gb7O10AO60UG206GA0",
    "aYGA0AG107G10LG50JGl00aMReI0bJK50PS20PSa80aXD6L401LaBD9L70HDaS01I1J2L1NB02N5S90fn5I5K6L8StZIm",
    "FNa501R9NMSbP0c7SigP04O107O102O102CgXJ4OF01PT03L201PE04L80k0Jbl40bZG50DG309G70AG208Gde80fYR3S",
    "30l4R60NSF0HSF0aAO20NO90c8OaO0fU5A0a35201Ae05BH2OL0aY8cE0KPC0KKC0bF790I97KcR0bD510aZ510252015",
    "2025204510C510151045172510aT510452085107510S5104510551015307510iE52820h252920aE5r4HF05H10FHad",
    "O0VO606PeX07I10HI207I102I105I50aQPX01Pc40a9L30EL20AL402LhW0VOH0aML501LlW0a6PeY0a7R401ReC0VS10",
    "MS802Sf807O104O102O10FO10eHG20GGa50b3I1L40AI402IuT0aWKb40aPLeE04D10RD102D101D201D10AD104D101D",
    "101D601D401D101D101D103D102D101D201D101D101D101D101D102D101D204D107D104D104D101D10AD10HD503D1",
    "05D10HDaG02DgI0a8A40bSAC0FC20EC1G10FC10FCMGA0BB2G3NVB1K1C1BBC1B1C1B2C1B3C1B3C5B8C1B7C1BAC2D1L",
    "3N9C1B1C2B2C1BAC4B2C1BACII1NaK0QC1B2CD0YB9C1I409B702CE06JdA0XCCG3H6C1GaYC1G2HKCCGa1C1G5C4G5HC",
    "GHC7G8HaRC1G1C1Ge2C1G4C2G1HaQC2G4D7G5HOCIG1Ia5G1IbEG5C1DGC1D3C1D1C1D1C1D1C1D3C1D6C2D4C1D1C2D4",
    "C1DCC2G2HBCaCGaYCAG1H2I2J1L2N1S301P3ODG304G3I2J1K1L2N30c8C3P4S5PbDG4K1P60CL401OF0CG40aKG80AG6",
    "0a4G80UG202NAR402RE09Sa30CJ1N3L9H6I1J8I8J1I2JCI1LCI1J3KFIDJ5K1L1N4K2N1O1K1L4K5HDI6JBK2N6L3N2L",
    "AK6L1H2K8L1N1O3LNJPKbCL4S80EK204L1N3P3L2O303L4N2P1R1S301S1R6LJN4O3P7N4O3P1R1P3N3O1R101S401S2P",
    "7N3O2P1R201R8O1P1R1S401S7O2P70d3N10aJNa1RAN1SabJ022aspF57N2OW0dk9B4O1P6Sf6C20fd2HCS20gyLJF0qA",
    "QbpI0o25aoS022eg7N50dlGPdoESbcq8022bqzE022bqzE022bqzE022bqzE022bqzE022bqzE022bqzE022bqzE022bq",
    "zE022bqzE0221015U0bO5cK0fO7bqlM0eizY2"]

/-- What a character is to the ends of graphemes. -/
def graphemeBreaks : Division where
  values := [
    ["control", "cn"], ["cr"], ["extend", "ex"], ["l"], ["lf"], ["lv"], ["lvt"],
    ["prepend", "pp"], ["regionalindicator", "ri"], ["spacingmark", "sm"], ["t"], ["v"], ["zwj"]]
  runs := String.join [
    "A1152112I1bN0X1D011pI0c43gN073gB0a931013102310231013aK068A0B31011aA0L3G013bT07318106320231043",
    "X0181013U0R3bJ0B3aM0939013O043109310331053a7033aG0285093a60O318W31AaI0131A13103A834A132A1073A",
    "023T0132AaK01310132A43202A202A139013A023Q01320231AaK013103A23402320333013U0233013B0231AaK0131",
    "03A5310231A102A13K023M06310132AaK01310231A43202A202A137033A023U013aN0131A132A303A103A139013a4",
    "0133A13aJ01310334A103310437023B023T0132AaK013101A231A132A103310437023B023F01AC0232AaJ02310132",
    "A43103A103A13188013A023T0132AaY01340132A331013107A13I02AaP013101A73C083bQ013101A93B073b1023R0",
    "1310131013402AaD0E31A53102350B310a039013bU0431A6310232A23N02A234033G043D013101A236013F013bQ0b",
    "O4b0CbGBiP033zA043S033T023U023aS0231A738A132AB39013a90331113c9023Y013cA0334A233A402A136A33f30",
    "232A13aL01A131A731013101320836AA32013aC0aA320C3K0431AaB0A34A33a2093C0231AU01A432A63aK0131A233",
    "A131A53aC08A832A23d803310D31A7340136013201A23eI0aS3nJ011131D21O071aD0G1bO0X3cgA033cX013bO0W3o",
    "E063bX023afeW04310A3W023b8023gK01330134013N02A231A4013bB02AaE0GA23Q0I3D013a2083P0B31A13C0T430",
    "331AaB0132A432A232A13a0013aV0632A232A23C01380131AaA013aF0131033202350231013a501A232A501A13fK0",
    "2A132A132A101A13I016R716R716R716R716R716R716R716R716R716R716R716R716R716R716R716R716R716R716R",
    "716R716R716R716R716R716R716R716R716R716R716R716R716R716R716R716R716R716R716R716R716R716R716R7",
    "16R716R716R716R716R716R716R716R716R716R716R716R716R716R716R716R716R716R716R716R716R716R716R71",
    "6R716R716R716R716R716R716R716R716R716R716R716R716R716R716R716R716R716R716R716R716R716R716R716",
    "R716R716R716R716R716R716R716R716R716R716R716R716R716R716R716R716R716R716R716R716R716R716R716R",
    "716R716R716R716R716R716R716R716R716R716R716R716R716R716R716R716R716R716R716R716R716R716R716R7",
    "16R716R716R716R716R716R716R716R716R716R716R716R716R716R716R716R716R716R716R716R716R716R716R71",
    "6R716R716R716R716R716R716R716R716R716R716R716R716R716R716R716R716R716R716R716R716R716R716R716",
    "R716R716R716R716R716R716R716R716R716R716R716R716R716R716R716R716R716R716R716R716R716R716R716R",
    "716R716R716R716R716R716R716R716R716R716R716R716R716R716R716R716R716R716R716R716R716R716R716R7",
    "16R716R716R716R716R716R716R716R716R716R716R716R716R716R716R716R716R716R716R716R716R716R716R71",
    "6R716R716R716R716R716R716R716R716R716R716R716R716R716R716R716R716R716R716R716R716R716R716R716",
    "R716R716R716R716R716R716R716R716R716R716R716R716R716R716R716R716R716R716R716R716R716R716R716R",
    "716R716R716R716R716R716R716R716R716R716R716R716R716R716R716R716R716R716R716R716R716R716R716R7",
    "16R716R716R716R716R716R716R716R716R716R716R716R716R716R716R716R716R716R716R716R716R716R716R71",
    "6R716R716R716R716R716R716R716R716R716R716R716R716R716R716R716R716R716R716R716R716R716R716R716",
    "R716R716R716R716R716R716R716R716R716R716R716R716R716R716R716R716R716R716R716R716R716R716R716R",
    "716R716R716R716R716R716R716R716R7C0NC40aDBioU013tH0G3G0G3eR011dE023b80C1n9013fA013d5053atE033",
    "10235043a40334013dL023oX043aT053hT023b5063aY0B3aD043cE01A131AaH0F3a50132023A0331Aa903A432A232",
    "0184013A018aE033a00531A83G02Aa8013C0231AaC03A931A1310285043101A13bK03A332A4360132013dD0133A83",
    "L0232AaJ02310131A134A202A202A139013A02A20733053aV0132A631013201310331A102A331813E023bA03A832A",
    "331A13N013b90132A631A132A131A231A23fJ0132A43204A231A23R023bA03A832A131A23bY0131A132A83bT0131A",
    "1320431A53g403A931A23fT0135A102A2043181A181A13cX03A4320234A13301AS0A3a40631A1043801390632A33a",
    "4068D31A23eI0131A331A131AeJ01A7310631A13bA0M3101A731A231A23cE0633013102310731813aU05A1023102A",
    "131A13iN0232A9023181AaC02A53302A33N013er50G11360F3lfG0C33A33bqC053aN073oG01C304CmG01310aJA704",
    "3b9013B023ty70231041dzK0aA320N3o2053306381832073U043d4033bbZ0aJ340aE38013E013M05310F3akS07310",
    "H3207310231053bS013dG073jF013aP043n4043g2023fR013201370235013m6073c1073bi70Q9n3053afklO0W1bO3",
    "cK1fO3cv01"]

def wordBreaks : Division where
  values := [
    ["aletter", "le"], ["cr"], ["doublequote", "dq"], ["extend"], ["extendnumlet", "ex"],
    ["format", "fo"], ["hebrewletter", "hl"], ["katakana", "ka"], ["lf"], ["midletter", "ml"],
    ["midnum", "mn"], ["midnumlet", "mb"], ["newline", "nl"], ["numeric", "nu"],
    ["regionalindicator", "ri"], ["singlequote", "sq"], ["wsegspace"], ["zwj"]]
  runs := String.join [
    "A0192D12I01H1013401G401B101C10AE1A1B50Q1401510Q1A01Da001120167011101A11101150N110V110mC160Y1c",
    "4451102120411B1160111A31101110K110bB110cV11074dM110a21204110111Aa511B1160a9410141024102410148",
    "0R74047111AB06E602B20B4101630a71L4AE101E1B102114bR11011741E10642124104421AE312011F02114U1R420",
    "bH1B411E0AEX19421201B1011201420M144119411341154I0P13440B150O110712E5094a61O41EX4aI13411I41174",
    "A12420AE10G1341081202120M11071101130412014117420242034118014402110312420AE21A0111014203410614",
    "02120M11071102110211021201410544024203430147041101170AE243114B0341091103110M11071102110512014",
    "1184103410342011F0212420AE90116410341081202120M110711021105120141174202420347034402110312420A",
    "E1011G014111061303110413021101110213021303130C140543034104420116014E0AEG05481103110N110G12014",
    "11741034104470241031102120212420AEG011341081103110N110A1105120141174103410447024503110212420A",
    "E102114C04491103110a51241174103410441150311470312420AEA061103410I130O110911011207130144064101",
    "4108460AE2024aP0142074C08410AEbF0142094B07410AEa2011N02460AEB0141014101440248110a0140K4102451",
    "B410a049014bS0K410AEC0444034103420743044D0C41014AE4420a211011501120a7110i91104120711011104120",
    "a51104120X1104120711011104120F110aL1104120aV12034W0G1G0bE1206130q8120H11HQ150b3130B170I14490J",
    "134B0I124C0D110311024aS0W4901420AEX0341614AE60bH1705124Y1141150aY1A0V110C440C4A0AEcK0BEa10N15",
    "4aL0A410T42014AE60AEM0aA420C4K054aB1H48130AEH094C034U1D421AEa81E4C0a01K480AE3031AEa0120B150a7",
    "12031G03410L44114611421341150eC1aS4gQ1206120a212061208110111011101110V120aH110711011303110713",
    "041206140D150311071307H103H10141I26802CA01C201A2D5615F025301BF015A01H5610A61011D011G0D1aF0X4H",
    "011401120A110113051601110111011104110B1204150514011H0a51vL0aG1axE0fD160413421C0a211011501120a",
    "K17011F014N19071107110711071107110711071107110W4aB011lW01H4011a006410585021bK0242830bJ8104850",
    "a7110bM1H0W1aC0G8eS0aB810bG8acrO0afD1aV0aA120gH130G1AE21K0aB14410A410V124b8124M0eX1K0H1143114",
    "4114N1544014J0aG1C024aE1I4A0AE60I4613011102114AES18420N1D4C0T13044aB1E4E011AEB014A0AE60a51E49",
    "03114812420AEX034aE0141034202450241014U0B154203124A061206120619071107110aM160c7184102420AE60k",
    "xC1C0N140aD1io0071C051501714A710D7105710171027102710A7bQ1X0j31I0aS120aI1a40C140G4301AC0G43025",
    "O0351B101C101B1AQ05110cR12016701C401B101C10AE1A1B50Q1401510Q1B0aK824V13061206120612031S03640C",
    "110Q110J1102110F120E1Y0cF1aX0aH1cS014cM0T130aD1F014V0W1D0U150a215450U120a0140811051a60dE120AE",
    "60a0140a0140a4180aG1C0B110F11071102110B110F11071102130aG1C0hN190M1A081O06110a611091aX06120111",
    "0a811021301120N1A0N190V1aT0J11021A0M1A0Q160Q1a20aK16021aS011341024504441103110T120344014W0T13",
    "0T1Z08110S124P0aI1A0M1A0J1D0I1c20b11aJ0aF1D0aF1D0a014480AE60AES1305410N1fY0a6110243021G061aE0",
    "64T1A01180M1B4V0I144a60L1R0N19034aH1F4V0AE142124119044a91B4201E4014A01E20P170AE6034a01E410AE4",
    "011241180Z11420119034aC1E44140441024AE111011Z0I110P1C460142114aQ0711011104110F110A170aB1C450A",
    "E60441081202120M110711021105110241174202420342011601450512420743054B0A11011201110a21101194101",
    "4201410441054111411D024T0aH1I44150AE401431U0aC1K421101180AEdM0aB1742094N04124Y0aC1H43011B0AEa",
    "20a71D41170AE60KEaL0F440AEeI0a81F4bT0aS1AEL08120112081102110O1641024204411141124C0AEaY08120a3",
    "174207411101114R011A4a4174114480148011B4aA1G43011I0b11bV084bG0X1F0AE609110a1184108411F0AEO0U1",
    "20M410E4b1071102110a2164301410241074111480AE6061102110W154102410541170AE60a8140AEfU0J14490241",
    "114D110Y1743054D0AE14bD011b70yM1bU0c31H0eG1bu80bP1F0acS1G61461F4A0dfZ150p71gh10U1I4AEav60oT17",
    "0V110AE60b7110AE60U12054B0aC1749041C0AE90L150J1l00a9130AEeI0aS1W0P120P1a80b31401411aJ47044D1a",
    "S021101114B024qm2048107810281018gZ038aE018E048bwC0bZ150D1309170A130241046dkW0AEnE0aA420N4o205",
    "4306486842074U044d4034lB0bD110aZ1102120112021204110C11011107110aT110412081107110S110411051101",
    "1307110iG120P110P110V110P110V110P110V110P110V110P1108120aEEn80aJ440aE48014E014M05410F4adO0V16",
    "061eX07410H420741024105450aQ1X014c40a9130747120AE4011hX0U114H0a8144AEm20S144AEeY0U12411AEeH0V",
    "11031142114712451148021f80711041102110F110eH1B074a50aW1741140AEag204110R110211011201110A11041",
    "10111011601140111011101110311021101120111011101110111011102110112041107110411041101110A110H15",
    "031105110H1qG0Q160Q160Q1bK0QFn3054bdG0AEafigZ016U0bO4cK0fO4"]

def sentenceBreaks : Division where
  values := [
    ["aterm", "at"], ["close", "cl"], ["cr"], ["extend", "ex"], ["format", "fo"], ["lf"],
    ["lower", "lo"], ["numeric", "nu"], ["oletter", "le"], ["scontinue", "sc"], ["sep", "se"],
    ["sp"], ["sterm", "st"], ["upper", "up"]]
  runs := String.join [
    "901C162C13I01C1D124032202A1110A82A301D10QE12101230Q7121012701BQ01C9017121015701740171240NE107",
    "EO710871E171E171E171E171E171E171E171E171E171E171E171E171E171E171E171E171E171E171E171E171E171E",
    "171E171E171E171E171E171E271E171E171E171E171E171E171E171E271E171E171E171E171E171E171E171E171E1",
    "71E171E171E171E171E171E171E171E171E171E171E171E171E171E172E171E171E372E171E172E173E274E172E17",
    "3E372E172E171E171E172E171E271E172E173E171E172E27191E37492E172E172E171E171E171E171E171E171E171",
    "E171E271E171E171E171E171E171E171E171E171E272E171E173E171E171E171E171E171E171E171E171E171E171E",
    "171E171E171E171E171E171E171E171E171E171E171E171E171E171E171E171E171E171E171E772E172E271E174E1",
    "71E171E171E171EaX729Z7792740C9E05770191019H0c441E171E1719101E1720471A1E601E103E101E102E17HE10",
    "9EZ71E273E371E171E171E171E171E171E171E171E171E171E171E171E571E17101E172E27aFEaC71E171E171E171",
    "E171E171E171E171E171E171E171E171E171E171E171E171E171E1710741E171E171E171E171E171E171E171E171E",
    "171E171E171E171E171E171E171E171E171E171E171E171E171E171E171E171E171E171E172E171E171E171E171E1",
    "71E171E271E171E171E171E171E171E171E171E171E171E171E171E171E171E171E171E171E171E171E171E171E17",
    "1E171E171E171E171E171E171E171E171E171E171E171E171E171E171E171E171E171E171E171E171E171E171E171",
    "E171E171E171E1710a2E2019301A20a571D70a94101410241024101480R94059C068602A20B410153Da79L4A81028",
    "102914bR91D19741810642924104429A83920193DC0151914U9R420bH9B419E0A8X99429201A1D19201420M944199",
    "419341954901D101D302D10P93440B950O91079285094a69O418X4aI93419I41974A9242DA810G9341089202920M9",
    "1079101930492014197420242034198014402910392420A829A019101420341069402920M91079102910291029201",
    "410544024203430147049101970A8243914B0341099103910M910791029105920141984103410342019F0292420A8",
    "90196410341089202920M910791029105920141974202420347034402910392420A81019G01419106930391049302",
    "9101910293029303930C940543034104420196014E0A8G05489103910N910G9201419741034104470241039102920",
    "292420A8G019341089103910N910A9105920141974103410447024503910292420A8102914C04499103910a592419",
    "74103410441950391470392420A8A069103410I930O9109910192079301440641014108460A82024D0aC914297450",
    "798410A8a30291019105910O9101910A91429941920591019107410A82049W019N02460A8B0141014101442248910",
    "a0940K4102459B410a049014aL0a79K419A82D4069444934193429743944D9C41914A84420a2E101E501E20a79101",
    "7i89104920791019104920a59104920X9104920791019104920F910aL9104920aV92034201D402DN0G9G0bEE20673",
    "0q89101DH91CQ92230b3930B970I94490J9342D90I924C0D910391024C0aG9W42D101940191420A8O01A1D401A1D1",
    "0341514A860bH9705924Y9141950aY9A0V910C440C4802DA8U92059B0a8940Q960B8a10N95440aH9A410T42014A86",
    "0A8D0194D40aA420C4K054aB9H489102DA82D202DB094903D34U9D429A8a89E4C0a09K4302D30A83039A8a092D971",
    "E1750a792039G03410L44914691429341950eC7aS41E171E171E171E171E171E171E171E171E171E171E171E171E1",
    "71E171E171E171E171E171E171E171E171E171E171E171E171E171E171E171E171E171E171E171E171E171E171E17",
    "1E171E171E171E171E171E171E171E171E171E171E171E171E171E171E171E171E171E171E171E171E171E171E171",
    "E171E171E171E171E171E171E171E171E171E171E171E171E171E171E171E971E171E171E171E171E171E171E171E",
    "171E171E171E171E171E171E171E171E171E171E171E171E171E171E171E171E171E171E171E171E171E171E171E1",
    "71E171E171E171E171E171E171E171E171E171E171E171E171E171E171E171E171E171E978E67206E20878E878E67",
    "206E2087101E101E101E101E878EE720878E878E878E5710275E1017303710275E304720274E40875E503710275E3",
    "0BC152425302A30824011302B551C9022102D70223DL01C5510A51017B02217D02210D7aF0X4H01E401E20173E273",
    "E17101E305E601E101E101E104E10174E17491720272E501E474017H0GEG7391E1749jN042T022jZ0QEQ7qD06270E",
    "2b7022V0A2k70M2aR042W022nA0aCEaC71E173E271E171E171E174E171E271E873E171E171E171E171E171E171E17",
    "1E171E171E171E171E171E171E171E171E171E171E171E171E171E171E171E171E171E171E171E171E171E171E171",
    "E171E171E171E171E171E171E171E171E171E171E171E171E171E171E171E171E171E171E171E27601E171E17341E",
    "17503D40a271017501720aK97019F014N99079107910791079107910791079107910W4E2E02220A2401D19C01D501",
    "2G02D82kN01C1A1D2039A2208210321099641059205940bE92024203910bI9104950a7910bM9H0W9aC0G9n80ga49a",
    "S0wqH9aV0aA9101DgH9102DG9A829K01E171E171E171E171E171E171E171E171E171E171E171E171E171E171E171E",
    "171E171E171E171E171E171E171E17194410A410191E171E171E171E171E171E171E171E171E171E171E171E171E1",
    "71E3724b8924101D301DV099201E171E171E171E171E171E171E371E171E171E171E171E171E171E171E171E171E1",
    "71E171E171E171E171E171E171E171E171E171E171E171E171E171E171E171E171E171E171E171E171EA71E171E17",
    "2E171E171E171E171E1719201E171E17191E171E371E171E171E171E171E171E171E171E171E171E175E175E171E1",
    "71E171E171E171E171E171E174E171E172E171E171E171E171E171E171E171E171EK0471E171937791439144914N9",
    "544014J0aG9202D8024aE9I4802DA860I4693019102914A8S984101DN9D4C0T93044aB9E4702D5019A8605914A9A8",
    "5910a59E4903914892420A8303DN9301934aE914193429245924191419O03920B9542D3924A069206920699079107",
    "910a7710E760b87Z9841D2420A860kxC9C0N940aD9hzS0j6920bY9a2077C057501914A910D9105910191029102910",
    "c09X0j3922G0aS920aI9a40C940G42A1D2A2D2270G4102A20G22022702A11102A2D1A62401AC05910cR92015101D6",
    "022202A1110A82A301D10QE12101230Q712101210221D221A10aK924V93069206920692039S03540C910Q910J9102",
    "910F920E9Y0cF9aX0aH9cS014cM0T930aD9F014V0W9D0U950a295450U920a0940891059a60a4Ea47b6920A860a0E4",
    "0a0740a4980aG9C0BE10FE107E102E10B710F71077102730aG9C0hN990M9A089O017293710a671097aX069201910a",
    "891029301920N9A0N990V9aT0J91029A0M9A0Q960Q9a20aK96029aS019341024504449103910T920344014M02D80T",
    "930T9Z08910S924P0aI9A0M9A0J9D0I9c20b19aJ0aFED0aF7D0a094480A860A869ME30541019M7fY0a6910243029G",
    "069aE064T9A01980M9B4405DM0I9444Da20L9R0N99034aH9F42DT0A8142924199044a99B420184D14A01820P970A8",
    "6034a09E410A8103D19241980Z91420199034aC9E4492D20441D24A8191019102DW0I910P9C42D102D10142914aQ0",
    "791019104910F910A91D60aB9C450A860441089202920M91079102910591024197420242034201960145059242074",
    "3054B0A91019201910a2910199410142014104410541914192DB024T0aH9I4492D30A8401439U0aC9K429101980A8",
    "dM0aB9742094102D50FD4924Y0aC9H42D1019B0A8a20a79D41970A860K8S0R920F440A8203D1079e50a89F4bT0WEW",
    "7A8L08920192089102910O96410242044191419241D101D90A8aY08920a3974207419101914R019A4a49741944302",
    "D30148019B4aA9G4102D19I0b19bV084bG0X9F0A8609910a19841084192DD0A8O0U920M410E4b1079102910a29643",
    "01410241074191480A86069102910W954102410541970A860a8940A8fU0J9442D70241914D910Y97430542DB0A814",
    "bD019b70yM9bU0c39H0eG9bu80bP9F0acS9G51469F4A0dfZ950p79gh10U9I4A8av60oT970V910A8402Db7910A860U",
    "920541DA0aC9742D70491DB0A890L950J9l00a99102DA8eI0WEW7O01D70PE20P7a80b39401419aJ47044D9aS02910",
    "1914B0245990gw29a50W9bP0c79igP0491079102910h39F019T0392019E04980k09bl40bZ950D9309970A930241D4",
    "5dkW0A8nE0aA420N4o2054306485842074U044d4034lB0QEQ7QE7710I7QEQ71E102E201E202E204E108E471017107",
    "710B7QEQ72E104E208E107E10Q72E104E105E101E307E10Q7QEQ7QEQ7QEQ7QEQ7QEQ7QES720PE10P71067PE10P710",
    "67PE10P71067PE10P71067PE10P710671E1720aE8n80aJ440aE48014E014301DI05410F4adO0A719K76067eX07410",
    "H420741024105450aQ7X014c40a9930747920A84019hX0U914H0a8944A8m20S944A8eY0U92419A8eH0V9103914291",
    "4792459148029f80791049102910F910eH9B074a50YEY7741940A8ag204910R910291019201910A91049101910196",
    "01940191019101910391029101920191019101910191019102910192049107910491049101910A910H95039105910",
    "H9qG0QE60QE60QEai0032alV0A8abM0aspO9W0dqQ920fdE920gyL9F0qA9bpI0o29aoU0eg7950iaU9acauR015U0bO4",
    "cK0fO4"]

end Inquiry.Text.Property
