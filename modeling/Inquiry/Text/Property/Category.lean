import Inquiry.Text.CharSet

/-!
General categories of characters, by the data of Unicode 17.
-/
namespace Inquiry.Text.Property

/-- The category of every code point, in runs; the labels are the positions of the thirty
categories in the order of their short names. -/
def categoryRuns : String :=
  String.join [
    "W01T3L1N3L1M1I1L1P1L1H2LAD2L3P2LQ91M1L1I1O1G1OQ51M1P1I1PX01T1L4N1Q1L1O1Q171K1P111Q1O1Q1P2F1O1",
    "52L1O1F171J3F1LN91P79O51P85191519151915191519151915191519151915191519151915191519151915191519",
    "151915191519151915191519151915191519151915192519151915191519151915191519151925191519151915191",
    "519151915191519151915191519151915191519151915191519151915191519151915191519152915191519352915",
    "191529153925491529153935291529151915191529151925191529153915191529251719354719181519181519181",
    "519151915191519151915191519151925191519151915191519151915191519151925191815191539151915191519",
    "151915191519151915191519151915191519151915191519151915191519151915191519151915191519151915191",
    "5191519151975291529251915491519151915191519aX527Q5I64OC6EO567O161O16HOc4C19151915161O19152216",
    "351L19422O191L391219122915H91299Z519253935191519151915191519151915191519151915191519151955191",
    "51P19152925aF9aC5191519151915191519151915191519151915191519151915191519151915191519151Q5C2B19",
    "151915191519151915191519151915191519151915191519151915191519151915191519151915191519151915191",
    "519151915191529151915191519151915191519251915191519151915191519151915191519151915191519151915",
    "191519151915191519151915191519151915191519151915191519151915191519151915191519151915191519151",
    "9151915191519151915191519151915191519151915191512a2922166La551L1H222Q1N12a9C1H1C1L2C1L2C1L1C8",
    "2R742472LB2613P2L1N2L2QBC1L113LW716A7LCAD4L271CbR71L177C111Q6C262C1Q4C27AD372Q17EL1211171CU7R",
    "C22bH7BC17E2ADX79C261Q3L16221C2NM74C169C163C165C22FL12P73C221L12B752O71O7721529Ca5716OC11WC1A",
    "aI71C1A1C173A8C4A1C2A177CA72C2LAD1L16F71C2A1287222722M7127712173247221C173A4C222A222A1C17821A",
    "422712372C22AD272N6F1Q1N171L1C222C1A1267422722M71277122712271227221C123A2C422C223C321C7247121",
    "772AD2C371C1LA22C1A1297123712M7127712271257221C173A5C122C1A122A1C2217F2272C22AD1L1N72176C121C",
    "2A1287222722M7127712271257221C171A1C1A4C222A222A1C722C1A422712372C22AD1Q176FA21C1712673237124",
    "73227121712273227323732C7422A1C2A323A123A1C2217621AE2AD3F6Q1N1Q521C3A1C87123712N712G7221C173C",
    "4A123C124C722C1237122722272C22AD721L7F1Q171C2A1L87123712N712A71257221C171A1C5A121C2A122A2C722",
    "A523712272C22AD12271AC22C2A97123712a572C173A4C123A123A1C171Q42371A7F372C22AD9F1Q67121C2A12I73",
    "2O7129712172277321C423A3C121C128A62AD222A1LC2aC71C277C421N67168C1LAD2La12271217125712O7121712",
    "A71C279C1722571216127C12AD2247W2173QFL1Q1L3Q2C6QADAF1Q1C1Q1C1Q1C1M1I1M1I2A8712a0742EC1A5C1L2C",
    "57BC12a0C128Q1C6Q122Q5L4Q2La12a772A4C1A6C1A2C2A2C17AD6L672A2C473C173A277A374CD71C2A2C6A1C171A",
    "AD3A1C2Qa291219521922a751L1635i57124722771217124722a57124722X7124722771217124722F712aL7124722",
    "aV7223C9LKF32G7AQ62bE92265221Hq871Q1LH71TQ71M1I32b373L3E8772I73C1A92J72C1A2L92I72CC2D71237122",
    "CC2aG72C1A7C8A1C2ABC3L163L1N171C22AD62AF626L1H4L3C111CAD62Z716aH772572CY71C1752aY7A2V7123C4A2",
    "C3A422A1C6A3C421Q322LADU72257B2a8742Q762AD1F32YQN72C2A1C222LaH71A1C1A7C121C1A1C2A8C6AAC221CAD",
    "62AD627L166L22EC1BVC22CCK24C1AaB71C1A5C1A1C5A1C2A87122LAD7LAQ9C9Q3L2C1AU71A4C2A2C1A3C27ADa871",
    "C1A2C3A1C1A3C2A824La078A8C2A2C325LAD3237ADU7662L95191552a7922398L823C1LDC1A7C471C671C271A2C17",
    "52a85aR6D516Y5a16aSC1915191519151915191519151915191519151915191519151915191519151915191519151",
    "915191519151915191519151915191519151915191519151915191519151915191519151915191519151915191519",
    "151915191519151915191519151915191519151915191519151915191519151915191519151915191519151915191",
    "519151915191519151915191519151915191519951915191519151915191519151915191519151915191519151915",
    "191519151915191519151915191519151915191519151915191519151915191519151915191519151915191519151",
    "915191519151915191519151915191519151915191519151995896522692285898589652269228512191219121912",
    "198589E52285888588858855122549181O153O35122549183O45222549123O85593O2235122549182O12BT516H2L1",
    "K1J1M2K1J1M1K8L1R1S511T9L1K1J4L2G3L1P1M1IBL1P1L1GAL1T5112A11F16226F3P1M1I16AF3P1M1I12D632YNE2",
    "DC4B1C3BCCF22Q194Q192Q15392539151Q192Q1P596Q191Q191Q191Q491Q15491547152Q25295P19451Q1P2Q151QG",
    "FZE19154E1F2Q425P5Q2P4Q1P2Q1P2Q1P7Q1PVQ2P2Q1P1Q1PVQgGP8Q1M1I1M1IKQ2P7Q1M1Ib9Q1PUQPPa4Q6Pb0QM2",
    "BQL2aOFb6QMFe3Q1P9Q1PaIQ8Pc3Q1PfWQ1M1I1M1I1M1I1M1I1M1I1M1I1M1IUFa8Q5P1M1IVP1M1I1M1I1M1I1M1I1M",
    "1IGPg4QcNP1M1I1M1I1M1I1M1I1M1I1M1I1M1I1M1I1M1I1M1I1M1IaRP1M1I1M1IWP1M1Ig6PaCQLP2Q6Pa3Q22cUQaC",
    "9aC519153925191519151915491519251965263915191519151915191519151915191519151915191519151915191",
    "519151915191519151915191519151915191519151915191519151915191519151915191519151915191519151915",
    "19151915191519151915191519151915191519151915191519256Q191519153C1915524L1F2La251215521522aK77",
    "2161LE21CN79277127712771277127712771277127712WC2L1K1J1K1J3L1K1J1L1K1J9L1H2L1H1L1K1J2L1K1J1M1I",
    "1M1I1M1I1M1I5L16AL2H4L1H1L1MDL2Q3L1M1I1M1I1M1I1M1I1HY2QQ12bHQC2eYQQ2GQ1T3L1Q16171E1M1I1M1I1M1",
    "I1M1I1M1I2Q1M1I1M1I1M1I1M1I1H1M2I1Q9E4C2A1H562Q3E16171L2Q12bE7222C2O26171HbI71L361752a7712bM7",
    "122Q4FAQW7a2Q921QG7VQ12AFUQ8F1QFFWQAFa3QFFhWQga47aSQvkP716aeR732aJQ92a47662LgG7163LG7AD27K219",
    "151915191519151915191519151915191519151915191519151915191519151915191519151915191519151915171",
    "C3B1LAC1L1619151915191519151915191519151915191519151915191519151915262CaY7AE2C6L82NO962O19151",
    "915191519151915191519351915191519151915191519151915191519151915191519151915191519151915191519",
    "15191519151915191519151915191519151915191519151915191516851915191529151915191519151915162O191",
    "519151719151935191519151915191519151915191519151915191559155915191519151915191519151915191549",
    "1519152915191519151915191519151915191519K2461915172615771C371C471CN72A2C1A4Q1C326F2Q1N1Q62aG7",
    "4L822AaE7GA2C822LAD62IC673L171L271CADS78C2LN7BC2AB21LT7323C1AaB71C2A4C2A2C3ADL1216AD422L571C1",
    "697AD5712a576C2A2C2A2C92371C871C1A22AD224LG716673Q171A1C1AaE71C173C272C572C171C17O227162LB71A",
    "2C2A2L17261A1CA267226722679277127712a751O4695162O42b85Z72A1C2A1C2A1L1A1C22AD62kxC7C2N742aD742",
    "bdW4fuS3j6722bY7a2275C25552171CA71PD7125712171227122712c07HOGQj371I1MGQaS72QaI78QW2C71N3QGC7L",
    "1M1I1L62GC1L2H2G1M1I1M1I1M1I1M1I1M1I1M1I1M1I1M1I2L1M1I4L3G3L124L1H1M1I1M1I1M1I3L1P1H3P121L1N2",
    "L425712cR72211123L1N3L1M1I1L1P1L1H2LAD2L3P2LQ91M1L1I1O1G1OQ51M1P1I1P1M1I1L1M1I2LA716a9726V732",
    "67226722672237322N1P1O1Q2N121Q4P2QA2312Q22C712Q712J7122712F722E7Y2cF7523L42a9F329QaHE4FHQ2F3Q",
    "12DQ321QaB2a9Q1CcM2T732aD7F21CRF42W74F92K71E871E52a275C52U7121La0742871L5Ea62a49a45b6722AD62a",
    "0942a0542a4782aG7B21LB912F91279122912B512F51275122532aG7C2hN792M7A287O26612a661296aX267221712",
    "a871227321722N7121L8FN72Q7FV7829FaC2J71227525FM76F321LQ7521LQ7a22aK7422F27GF22aAF173C122C524C",
    "47123712T7223C421C9F729L72T72F1LT73FW2871QS72C425F7L92aI7327LM7228FJ7528FI7724LC27Fb82b17aJ2a",
    "F9D2aF5726Fa074C82AD62AD471617M9325C1H16M5822PeS2VF12a67122C1H2227G2371627821L8QX26CT7AF1782M",
    "7BC4F5LM2I74C4La22L77FK2N7921A1C1AaH7FC7L42KFAD1C272C17923C1Aa973A4C2A2C2L114L1CA21122P772AD6",
    "23Ca075C1A8C12AD4L172A1782Z71C2L17922C1AaC73A9C2A474L4C1L1A1CAD171L173L12KFB2I712P73A3C2A1C1A",
    "2C6L1C271CaQ2771217124712F712A71L62aB71C3A8C52AD622C2A1287222722M7127712271257122C172A1C4A222",
    "A223A2217621A52572A227C325CB2A71217221712a2712173A6C121A221A124A122A1C1A1C171C172L122L822CT2a",
    "H73A8C2A3C1A1C475LAD2L121L1C37U2aC73A6C1A1C4A2C1A2C271L1782ADdM2aB73A4C224A2C1A2CNL472CY2aC73",
    "A8C2A1C1A2C3L17B2AD62DLJ2a771C1A1C2A6C1A1C171L62AD62KDS2R7221C1A1C2A4C1A5C42AD2F3L1Q77e52a873",
    "A9C1A2C1LbS2W9W5AD9FC28722172287122712O76A122A222C1A1C171A171A1C3L92ADaY28722a373A4C222C4A1C1",
    "71L171AR217ACa476C1A174C8L1C82176C2A3CaA7DC1A2C3L175LD2b1772ALbE21C1A3C1A1C1AbG2X71LE2AD62971",
    "2a171A7C126C1A1C175LA2ADJF322LU722MC121A7C1A2C1A2Cb1277122712a276C321C122C127C171C82AD6267122",
    "712W75A122C122A1C1A1C1772AD62a57162742ADfU2J72C2A2L722C171AD712Y72A5C322A1C1A1CDLAD1CbD217F2L",
    "F8Q4NHQD21LyM7bU2c3E125LB2eG7bu82bP72LD2acS7G11C67FCA2dfZ752p77gh12U7CC3A3CADav62oT772V712AD4",
    "22Lb7712AD62U7225C1LA2aC77C5L4Q461L1QA2AD127F12L752J7l0236a47263LADeI2W9W5NF4L52P922P5a82b374",
    "21C17aJA724CD6aS2261L161CB22A263E92gw27a52W7bP2c77igP2461276122612h37F217T2372217E24782k07bl4",
    "2bZ752D7329772A7221Q2C1L41de82fOQAD3Q32l4Q62NQF2GQ1PF2aAC22NC92c8QaO2fUQA2a3Q22aOQ2A3C3Q6A818",
    "C2Q7CUQ4CaPQL2aUQ3C1QcE2KFC2KFC2bFQ92PFcR2Q9Q5Q97512I5Q9Q51912292219222922491289451215127512B",
    "5Q9Q52912492289127912Q529124912591219327912Q5Q9Q5Q9Q5Q9Q5Q9Q5Q9Q5Q9S522P91PP51P65P91PP51P65P9",
    "1PP51P65P91PP51P65P91PP51P65191522aEDn8QaJC4QaEC8Q1CEQ1C2Q5LF25C12FCadO2A517K56265eX27C12HC22",
    "7C122C125C52aQ6X21Cc42a97327C7622AD42171QhW2U71CH2a874CAD521NlW2R7164CADeY2U72C17AD421LeC2V71",
    "2371C271C772C571C821716f82771247122712F712eH7229F7Ca52Y9Y57C1642AD422LuT2aNF1Q3F1N4Fb42a9F1QF",
    "FeE24712R712271217221712A71247121712176217421712171217123712271217221712171217121712171227121",
    "72247127712471247121712A712H75237125712H7aG22PgI2a8Q42bSQC2FQ22FQ12FQ12a1QA2DFdHQaK2TQD2a8Q42",
    "9Q722QE26QdA2fZQ5Ot9Q32HQ32DQ32f2Q62CQ421QF2CQ42aKQ82AQ62a4Q82UQ22CQ422QE29Pa32iKQ82EQ22DQ32B",
    "Q32aLQ121Q42GQ22CQ42AQ72d3Q12bKQAD1QabL2aspO7W2dqQ722fdE722gyL7F2qA7bpI2o27aoU2eg7752iaU7acau",
    "R211U2bO1cK2fOCbqlO2bqzE322bqzE322"]

/-- The names of categories and of groups of them, without regard to case and marks, and the
labels that belong to each. -/
def categoryNames : List (List String × List Nat) := [
  (["c", "other"], [0, 1, 2, 3, 4]),
  (["cc", "control", "cntrl"], [0]),
  (["cf", "format"], [1]),
  (["cn", "unassigned"], [2]),
  (["co", "privateuse"], [3]),
  (["cs", "surrogate"], [4]),
  (["l", "letter"], [5, 6, 7, 8, 9]),
  (["lc", "casedletter"], [5, 8, 9]),
  (["ll", "lowercaseletter"], [5]),
  (["lm", "modifierletter"], [6]),
  (["lo", "otherletter"], [7]),
  (["lt", "titlecaseletter"], [8]),
  (["lu", "uppercaseletter"], [9]),
  (["m", "mark", "combiningmark"], [10, 11, 12]),
  (["mc", "spacingmark"], [10]),
  (["me", "enclosingmark"], [11]),
  (["mn", "nonspacingmark"], [12]),
  (["n", "number"], [13, 14, 15]),
  (["nd", "decimalnumber", "digit"], [13]),
  (["nl", "letternumber"], [14]),
  (["no", "othernumber"], [15]),
  (["p", "punctuation", "punct"], [16, 17, 18, 19, 20, 21, 22]),
  (["pc", "connectorpunctuation"], [16]),
  (["pd", "dashpunctuation"], [17]),
  (["pe", "closepunctuation"], [18]),
  (["pf", "finalpunctuation"], [19]),
  (["pi", "initialpunctuation"], [20]),
  (["po", "otherpunctuation"], [21]),
  (["ps", "openpunctuation"], [22]),
  (["s", "symbol"], [23, 24, 25, 26]),
  (["sc", "currencysymbol"], [23]),
  (["sk", "modifiersymbol"], [24]),
  (["sm", "mathsymbol"], [25]),
  (["so", "othersymbol"], [26]),
  (["z", "separator"], [27, 28, 29]),
  (["zl", "lineseparator"], [27]),
  (["zp", "paragraphseparator"], [28]),
  (["zs", "spaceseparator"], [29])]

def ofCategories (labels : List Nat) : CharSet := CharSet.ofRuns categoryRuns labels

/-- The characters of a category, or of a group of categories, by its name. Beside these stand
all characters, those that are assigned, and those of ASCII. -/
def category? (name : String) : Option CharSet :=
  if name = "any" then some ⟨#[(0, lastCodePoint)]⟩
  else if name = "ascii" then some ⟨#[(0, 0x7F)]⟩
  else if name = "assigned" then some ((ofCategories [2]).complement lastCodePoint)
  else (categoryNames.find? fun entry => entry.1.contains name).map fun entry =>
    ofCategories entry.2

end Inquiry.Text.Property
