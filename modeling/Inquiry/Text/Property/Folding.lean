import Inquiry.Text.CharSet

/-!
Simple case folding: which characters differ in nothing but case, by the data of Unicode 17.
-/
namespace Inquiry.Text.Property

/-- The next character in the cycle of those that fold together, for every character that has
one. A run is the distance of its first character from that of the run before, the number of its
characters, the step between them, and the distance to the next in the cycle, twice as far and
less one if it goes down. -/
def foldRuns : String :=
  String.join [
    "aTQ1aSWA1aRA11qwQ171aR711nW171aRaT11aoABN1aSO71aS711pg2151aR511qq01H1aRI71aR711fQ111211111112",
    "111111121111111211111112111111121111111211111112111111121111111211111112111111121111111211111",
    "112111111121111111211111112111111121111111211111112111111121111111211111112111111121111311211",
    "111112111111121111211211111112111111121111111211111112111111121111111211111112111121121111111",
    "211111112111111121111111211111112111111121111111211111112111111121111111211111112111111121111",
    "11121111111211111112111111121111111211111112111111121111111211111112111111121111111fP11121111",
    "1112111111121111111pN111jU111kO1112111111121111111kG11121111121kE21121111211dE111k8111kA11121",
    "111111kE111kI111eE111kQ111kM11121111111i2111clxI111kQ111kU111g8111kW1112111111121111111211111",
    "11l411121111111l431121111111l411121111121l22112111111121111111l61112111131121111211c452122113",
    "12122113121221131112111111121111111211111112111111121111111211111112111111121111111dD11121111",
    "11121111111211111112111111121111111211111112111111121111111211112212211311121111111eD111c3111",
    "211111112111111121111111211111112111111121111111211111112111111121111111211111112111111121111",
    "1112111111121111111211111112111111121111111211111112111111121111111g7211211111112111111121111",
    "111211111112111111121111111211111112111111121111711waQ11121111111i1111waK121wbU21121111111jT1",
    "11cU111cY1112111111121111111211111112111111121111111wa2111vzW111wa0111kN111kF221kD311k7211k91",
    "11clk2411kD111cljU211kH111cllE111clhW111cljG211kL111kP111cljG111vxU111cljA311kP211vy6111kT311",
    "kV811vwY311l3211cljE111l3411cli0111l3111cT121l1211cX611l5B11clgU111clgOdN11dOa711211111112111",
    "131121111431g8411fG711b4231b2411cK221cI211okY1H1aSI11aQ181aS811b3131b1311ok2111aR111aO121aR21",
    "1cK121aR211aE111ohI111c0111aR111aq1131aR311a8111bO1112131aR311U121aR211paM121aR211cJ121cH211G",
    "111cF111aY411bL111bZ111F111211111112111111121111111211111112111111121111111211111112111111121",
    "111111211111112111111121111111dR111dF111E111fF111e3111eB21121111111D11121111231g73G1dGGW1aSW2",
    "1aR211mgO111aR111mgM191aR911mg4121aR221mg0271aR711mfO151aR5G1dFG11211111112111meC111211111112",
    "111111121111111211111112111111121111111211111112111111121111111211111112111111121111111211111",
    "112111111121111911211111112111111121111111211111112111111121111111211111112111111121111111211",
    "111112111111121111111211111112111111121111111211111112111111121111111211111112111111121111111",
    "211111112111111121111111211111112111111121111111U11121111111211111112111111121111111211111112",
    "111111121111111T11121111111211111112111111121111111211111112111111121111111211111112111111121",
    "111111211111112111111121111111211111112111111121111111211111112111111121111111211111112111111",
    "121111111211111112111111121111111211111112111111121111111211111112111111121111111211111112111",
    "111121111111211111112111111121111111211111112111111121111111211111112111111121111111211111112",
    "11111112111111121111111211112a21bOaCa21bNcaZa21omKa311omK611omK3a71fk4a931fk4rRb81cea4b861G86",
    "1FbhO11miF111miD111mhV111mhR1112111mhT111mhF111meD111bwi8111211116a71fk3a931fk3e811bwlW411hcW",
    "H11bwoSc6112111111121111111211111112111111121111111211111112111111121111111211111112111111121",
    "111111211111112111111121111111211111112111111121111111211111112111111121111111211111112111111",
    "121111111211111112111111121111111211111112111111121111111211111112111111121111111211111112111",
    "111121111111211111112111111121111111211111112111111121111111211111112111111121111111211111112",
    "111111121111111211111112111c81112111111121111111211111112111111121111111211111112111111121111",
    "111211111112111111121111111211111112111111121111111211111112111111121111111211111112111111121",
    "111111211111112111111121111111211111112111111121111611c9311pg12112111111121111111211111112111",
    "111121111111211111112111111121111111211111112111111121111111211111112111111121111111211111112",
    "111111121111111211111112111111121111111211111112111111121111111211111112111111121111111211111",
    "112111111121111111211111112111111121111111211111112111111121111111211111112111111121111111211",
    "11111211111112111111121111111211111112111111121111111211111112111111121111181G881F861G861F881",
    "G881F881G881F861G861F942G842F781G881F821d4241dS421eK221g4221f8221g0481G881F881G881F881G881F82",
    "1G311I521F221d3211H211onX511I541dR411H421G311okX521F221eJ621G311ok1211E321F221f7211D711I521g3",
    "221fZ211HhA11pcD411qyH111qrR711aKS11aJIG1WGG1VJ1121111vQQ1aGQQ1aFay4aC1bOaCaC1bNaC1121111111v",
    "xT111hcV111vwX111waP111waJ111211111112111111121111111vzV111vy5111wa1111vzZ2112111121121111821",
    "wbT211211111112111111121111111211111112111111121111111211111112111111121111111211111112111111",
    "121111111211111112111111121111111211111112111111121111111211111112111111121111111211111112111",
    "111121111111211111112111111121111111211111112111111121111111211111112111111121111111211111112",
    "111111121111111211111112111111121111111211111112111111121111111211111112111111121111111211111",
    "1121111111211111112111111121111811211111112111141121111Da21omJa311omJ611omJagbZ11211111112111",
    "11112111111121111111211111112111bwi9111211111112111111121111111211111112111111121111111211111",
    "1121111111211111112111111121111111211111112111111121111111211111112111111121111J1121111111211",
    "111112111111121111111211111112111111121111111211111112111111121111111211111112111111121111111",
    "21111cR11211111112111111121111111211111112111111121111111211113112111111121111111211111112111",
    "111121111111211111112111111121111111211111112111111121111111211111112111111121111111211111112",
    "111111121111111211111112111111121111111211111112111111121111111211111112111111121111111211111",
    "1121111111211111112111111121111A112111111121111111bwlV111211111112111111121111111211111112111",
    "141121111111clhV3112111111121111111bO21121111111211111112111111121111111211111112111111121111",
    "111211111112111111121111111cljF111clk1111cljT111clj9111cljF211clgN111clhZ111clgT111ayK1112111",
    "111121111111211111112111111121111111211111112111111121111111bN111cljD111bwoR11121111111211111",
    "11cllD1112111111121111111211111112111111121111111211111112111111121111111clxHP1121111wX11ayJT",
    "b81cea3usX1121111ac7Q1aSWQ1aRagRa41b8a4a41b7cSa01b8a4a01b7d8B1b6CF1b6G71b6821b63B1b5CF1b5G71b",
    "5821b5av5aF1cKaSaF1cJd0M1aSWM1aRcaKW1aSWW1aRwj0W1aSWW1aRaSP1aIRP1aHagkHY1aWYY1aV"]

structure FoldRun where
  first : Nat
  count : Nat
  step : Nat
  shift : Int

def foldTable : Array FoldRun :=
  let rec rows : Nat → List Nat → List FoldRun
    | before, gap :: count :: step :: code :: rest =>
      let shift : Int := if code % 2 = 0 then code / 2 else -((code : Int) / 2) - 1
      ⟨before + gap, count, step, shift⟩ :: rows (before + gap) rest
    | _, _ => []
  (rows 0 (numerals foldRuns)).toArray

/-- The characters of a run that lie in a range, each moved on in its cycle. -/
def FoldRun.image (run : FoldRun) (range : Nat × Nat) : List (Nat × Nat) :=
  if run.first + run.count * run.step ≤ range.1 ∨ range.2 < run.first then []
  else
    (List.range run.count).filterMap fun i =>
      let n := run.first + i * run.step
      if range.1 ≤ n ∧ n ≤ range.2 then
        let m := (n + run.shift).toNat
        some (m, m)
      else none

def stepCase (s : CharSet) : CharSet :=
  CharSet.ofRanges
    (foldTable.toList.flatMap fun run => s.ranges.toList.flatMap fun range => run.image range)

/-- The set with all characters that differ from one in it by case only. No cycle has more than
four characters. -/
def closeCase (s : CharSet) : CharSet :=
  let one := stepCase s
  let two := stepCase one
  ((s.union one).union two).union (stepCase two)

end Inquiry.Text.Property
