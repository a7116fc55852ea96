/-! # Character classes

Which characters are letters, numbers, or may stand in names, and the case of letters, for all
characters and not only for those of one alphabet.
-/

namespace AnimationGraph

abbrev Chars := List Char
abbrev Texts := List String
abbrev Pairs := List (String × String)

namespace Letters

abbrev Runs := List (Nat × Nat)

variable (c : Char) (s : String)

def numbers : List Nat :=
 let rec go (pre : Nat) : Chars -> List Nat
  | [] => []
  | c :: cs =>
   if c < '0' then go pre cs
   else if c.isLower then go (26 * pre + (c.toNat - 97)) cs
   else (43 * pre + (c.toNat - 48)) :: go 0 cs
 go 0 s.toList

def runs : Runs :=
 let rec go (next : Nat) : List Nat -> Runs
  | gap :: len :: rest => (next + gap, next + gap + len) :: go (next + gap + len) rest
  | _ => []
 go 0 (numbers s)

def within : Runs -> Nat -> Bool
 | [], _ => false
 | (first, after) :: rest, code => first ≤ code && (code < after || within rest code)

structure Shift where
 (start count stride : Nat)
 distance : Int

def Shift.covers (t : Shift) (code : Nat) : Bool :=
 t.start ≤ code && code < t.start + t.count * t.stride && (code - t.start) % t.stride == 0

def Shift.reversed (t : Shift) : Shift := { t with start := (t.start + t.distance).toNat, distance := -t.distance }

def shifts : Array Shift :=
 let rec go (last : Nat) : List Nat -> List Shift
  | gap :: size :: dist :: rest =>
   let dist := if dist % 2 == 0 then .ofNat (dist / 2) else .negSucc (dist / 2)
   ⟨last + gap, size / 2, size % 2 + 1, dist⟩ :: go (last + gap) rest
  | _ => []
 (go 0 (numbers s)).toArray

def spellings : Array (Nat × Chars) :=
 let rec go (last : Nat) : Nat -> List Nat -> List (Nat × Chars)
  | fuel + 1, gap :: n :: rest => (last + gap, (rest.take n).map .ofNat) :: go (last + gap) fuel (rest.drop n)
  | _, _ => []
 let ns := numbers s
 (go 0 ns.length ns).toArray

def letterRuns : Runs := runs <|
 "bFJ6Jb41:1415G1O1kL4<>57111d051224116113111D1bX1d:8dU1V216YbLK44b2b0S21c=11?272:321@11NMc3;1HQ92415F419131GI7;5H1
  6AZb?b;31B17:?@48222F17113431@1=213>2:186422F17121212O411C3@9131F17121531B1?2G1;8222F17121531N213?1A11633143211
  1232333<F1b98131G1@31J32122N148131G1:1531O212?2A9131Y21@15383H65B3H191127b?b512<7b?211151H111:12912511E4P1bD81T
  K5cMb0D1@6443132734=<1AV11512b01hP142711142Y142Q142711142?1b>142bHU@@c0263oB2A1J5bP687B=C>B>=13?b9S141bHc3752R1
  15bK:Ob6N25;b14Jb;G9b:bW1c7b4A8b;N=2:b1JTY3:T297b023Y41612315eDbEgD262V26281111111O2b:1711331734264=5317cN1=1@=
  c?1412:1135611111141;245541b92ckAf>6432<V11512b=71@G9717171717171717bU1kW2Z5524c0631c4145b01c8APb5@lWfx=bEtv<bH
  b32g;3@:2Db4@O2bKb692cA2bE521115H@13141GMb9>b7bC63112;L:GIM7b4L1@51::51YG318DG313b71132252111H32;73<6262697171b
  01>6cMMjzS<G4b6hoHiF2cDV7<5511:1=151112121cFQiCBbE2b;X<cN51d6TJ6J;c336262623S<1J1C121?2>RcUj2M3b6b4P=D186V:N2T4
  8b5dMBT4T4X8b9<;1?17121;1?1712bHh:9F:8H61Z19bJ6211b112312G:G9ObFC12:F:JbKb=62bE1?4131MZM3MS81LKb;:F:C=BcHbNb<b8
  =b8=Ti4Z62bSM:18FZBb3EKG<b:b>221=b2PIJTM1218S31<b5>4E111SB1IbY711141?1:7b4V8222F17121531B1<5dMb:B4D3Nb5D211e<b4
  Y4Tb5D1b@b0=1bLKU7e=b1cNbEO82128121H?111c882W@111L1:X71E1;b3C1BbNg591UA1b6NcJ7121VE1I6121P>1hJCeA1bTvCf?eHcj=c;
  ?yWdq7nHhsQn:7OAbTANBb5@4OE5Cq0bEcZbP51bG=bE211LfmN8bcRZ9hzR417121gQb23A48j9cbMcE5=397:fj=bZ1bL122122241<11171b
  F1428171L141511371hW2I1I1O1I1O1I1O1I1O1I18bqVOl8b2:7@1hDNBb1bdE714121?1eIb@bI71bc041K1211211:141111614111111312
  112111111111121124171414111:1A53151AdyRbmfEPdsI7f72fe0>grRcu7mJbj1ekU"

def numericRuns : Runs := runs <|
 "e@3ccS6iP6cR3d47f27A9k3:z;;uE3fX:cdIb825r4;9;9;bT:91oV19191bg91s31I9>3hZ4d9:N81?P:W?hH1cW1vO1sL1eh=1213111bX1b317
  111X2N181T1c<1j@1bF1R11111kU11361cN4s@1mA171bgP1d22<311x@1bR1baW1bqU1bb61r<1chN1vN1byK141cV1cb91T151b01cW1dqU:h
  C6spD17141b>1N111Y1bpVb2<b>A2hXKT4M181d55baT8I7W9bP5F6dO22@2b3bI5b92N3bP5cB8H8Y7hM6iAFdM:Z4cJ7d>;iSDbf@2k09u;Ct
  REyScIqg:7sHGwz2DcFIewT9vJb@1314bQb21?wK2dl11c<1cW1bC1bvS1c2181?1hP1B1K1fpK1bjV1ea:1ja31bijS1"

def decimalRuns : Runs := runs <|
 "b5:bkJ:d5:eJ:jI:cP:cP:cP:cP:cP:cP:cP:cP:cP:c::cP:bK:gD:bK:br=:V:gZ:cZ:dU:6:e::c0:d5:6:bfo::pQ:V:eJ:F:c0:jC:taL:bg
  V:byP:sV:cZ:bA:d?:gD:hY:cP:iN:c@:c@:jS:c@:rK:fO:bK:roN:c0:d5:yvMb7cd3:jS:blO:egL:"

def digitRuns : Runs := runs "e6251eh:9bm61bn81366:wT9;9;9c31:911oL91919bzxF4yD9l@9bzlB;"
def barredRuns : Runs := runs "uN1clS1cY1hfB1bvfE6jC2cN111111111111111gM2"
def starterRuns : Runs := runs "c91fe<3jA2bz01E1b6S24di<1I9>3bbeE:urMb:kN181d55hjEcI"

def markRuns : Runs := runs <|
 "e;1nIcJG1fT5g7b211121211bM;b5E@1c?72:14S1NKc5;b?991HHb03bA8ZH1Pb<111484137:2M1b?14481D2J122b>142422331N231;2b>145
  1241D2F611b?121148172;2N1bB1<1b7131b<113531472;2M1b?1216152D2L2b>24481D2M1bM17311c4127<8c<129;6bO2K11111b<>1512
  5;1T91c@4161222I243@4=12261?1q?3w03M2N2N2bE217812;91b2311dH1cP3429163f4221b?1171111286:21b5>1@b64b51151151X9<2P
  42213b=1123113b?822dG31=17416132eJbEqP=413<ctA3d<1c:PmV4cE2bazE14:P2bU2g>13141I251dF2JB=1V8I;b33b512422W1bH6222
  2<181b41b8113225211Z281fG12141sdC1r6@@@iF2o31f;1dD5bmT31254X341dT2n>4j02dH;b64cU1b;?Y122:3b642271bB3T518bC1<2b9
  9:421c93211261dO138E2b>231U735eG82311G1bY6114212fG46212K2bZ82112cD1112611c?32415g1912fY21141d?42241P:X624819623
  b3=12jC71611bWF271212cT631121711bM23111i32rk?5b@7y@1bD4bV1roP2efBb32GmL3A827N4dC3bu1b<4b781>1F51?bfK71A271215g3
  7iO1bB4biZ7cG7bbgw;fI"

def followerRuns : Runs := runs <|
 "cbLbRb72b?36222:1b01b?3bG1b?38112b:2b?36222:1c@53313:1Y3bB4bB2b?7221292b02b?35313:1Z2bP368B2bD1cY1d92bD1dZBIbLqL9
  vL1N1d0Ci2949dP1bC2b?39Bd@bFbBcLb5BdZGtF2C1dq?2bbm55c2bId=2b4bCcH6H1b23cG551fF811svS2H3fH1dvO3cYb<cM1H2b@bD=1c7
  :dY3O2b?7222391:2eUAcDBfF367cK?cG;cC7g3=fP61246d=38441bY1MbFjD1>1cD<eY544i62sk@b<cB2wi7266"

def smallRuns : Runs := runs <|
 "dY1?1cW1bY1=1>2>131c<1B6K1211123211121521122171211236511182J72N5dD1d01i;1W1fjNcS131@1b6f5211kS1=1@=cG13231K141412
  284coA12127c@1bbwK2dA2bC9E161I1S111R3t4S171=vc;1231Z19buuOJJ71BJJJ411171;JJJJJJJJJJJJJJJJJLLI16JI16JI16JI16JI16
  11bqV:1D"

def capitalRuns : Runs := runs <|
 "wP3grN141332321356131322211:251dvo6JJJJJJ11221222418JJJ2142817K214151137KJJJJJJJJJJJNIQIQIQIQIQ1fv8J6J6J"

def titleRuns : Runs := runs "kG12121V1gu588888<1?1b41"

def pairs : Array Shift := shifts <|
 "c;b9bDcYb3bDH>bD72fK2b61b7717A1Ab41b47162j335152142162132eF42112hI42g237172152132145152142122cJ7233233232A1?2dL2C
  1D232214Y1ZC1I2134tj13215;192thG12thA12thE12jP12jH24jF32j@22jB12cxs>42jF12cxs622jJ22cxqF12cxrS22jN12jR12cxrS12t
  fM12cxrM32jR22tfY12jV32jX82teX32k522cxrQ12k542cxqJ12k512d814k322d<62k7;2cxpK12cxpEeW5162146g2b62bP16bN4RbDBBbD9
  2cY14cW:2?2I1I2>12f@521321b:bEbDPPdNAS1Zb<1b<?1=2M2c;1d?bQc9cq3c0fjWb26fjWrP<?ceI2clf?42gvAA2clhQcMdF1dOc;1c9@@
  @<@@@@@@@@<@A9@?@@@4dC28e044eL24fY24f924fUb94@P4@@4@52>iA2b<RPOD21tKb9b8brWc:c9b62142ti312thX271;21321;c?1cE517
  21=bQmzTW2mzT62mzTbbsTb41bEM1dQ?1@bD1bL515;1=2155132c:3E1NA1C51921651O21u12br6MdOcrnJtf0b9bDbd8bUbTe4bMbTeCWbR1
  ;bR<?bR@7bR82bRbpQc@cYctCbEbDtpQbEbDbccTbIbH"

def toCapital : Array Shift := pairs ++ shifts
 "e92biHcV2kQbS2nXbK21321321W21hV2dWcW2bB>2cU12cK42c712cEJ2dZ12dN42eCfq52leU12leS12leA14le=22le?12le112lbD12clc<m?2cOgQ2mx4"

def toSmall : Array Shift := pairs.map .reversed ++ shifts
 "kG22322322W22lY2cQgcP2nq7fC@?@@?@@?D2A@2Ab52AgX2nlJ42ozV12ou;"

def toCapitals : Array (Nat × Chars) :=
 let iotas := (List.range 48).map fun i => (8064 + i, [.ofNat (7944 + i % 8 + i / 16 * 32 + i / 32 * 32), .ofNat 921])
 iotas.toArray ++ spellings "f82bXbXcD2q<bSdV2bOs6jM3vBs2rVP3vNs2rVkY2bf0bfMft82bMt012bYs212c1s412c3s412bFq>e:2vNs=23vNs=rU23vNs=rV23vNs=tAc62hg
  VvB12v:vB12uZvB22v:tA13v:tAvB52v:vB62hh;vB12v@vB12v2vB22v@tA13v@tAvB52v@vB63vBs2rU13vBs2rV32vBtA13vBs2tA;3vNs2rU13v
  Ns2rV12vJs=22vNtA13vNs2tA;2hi@vB12vRvB12v8vB22vRtA13vRtAvB52vRvBbydW2bKbK12bKbN12bKbQ13bKbKbN13bKbKbQ12bXbY12bXbY=2
  bf?bfA12bf?bf012bf?bf612bfIbfA12bf?bf8"

def toSmalls : Array (Nat × Chars) := spellings "h32cCs1"
def isLetter : Bool := if c.toNat < 128 then c.isAlpha else within letterRuns c.toNat
def isDecimal : Bool := if c.toNat < 128 then c.isDigit else within decimalRuns c.toNat

def decimalValue? : Option Nat :=
 if c.isDigit then some (c.toNat - 48)
 else (decimalRuns.find? fun (first, after) => first ≤ c.toNat && c.toNat < after).map fun (first, _) =>
  (c.toNat - first) % 10

def isDigit : Bool := isDecimal c || (c.toNat ≥ 128 && within digitRuns c.toNat)
def isNumeric : Bool := isDigit c || (c.toNat ≥ 128 && within numericRuns c.toNat)
def isWord : Bool := c == '_' || isLetter c || isNumeric c

def startsName : Bool :=
 if c.toNat < 128 then c.isAlpha || c == '_'
 else (within letterRuns c.toNat && !within barredRuns c.toNat) || within starterRuns c.toNat

def continuesName : Bool :=
 startsName c || (if c.toNat < 128 then c.isDigit
  else isDecimal c || [markRuns, followerRuns].any (within · c.toNat))

def isName : Bool :=
 match s.toList with
 | [] => false
 | c :: rest => startsName c && rest.all continuesName

def isBlank : Bool :=
 let n := c.toNat
 (9 ≤ n && n ≤ 13) || (28 ≤ n && n ≤ 32) || (8192 ≤ n && n ≤ 8202) ||
  [133, 160, 5760, 8232, 8233, 8239, 8287, 12288].contains n

def isSpace : Bool := (9 ≤ c.toNat && c.toNat ≤ 13) || c == ' '

/-- The value of a digit to some base up to 16. -/
def digitValue? (base : Nat) (c : Char) : Option Nat :=
 let n := c.toLower.toNat
 let v := if c.isDigit then n - 48 else if n < 97 then base else n - 87
 if v < base then some v else none

def isDigitOf (base : Nat) (c : Char) : Bool := (digitValue? base c).isSome
def valueIn (base : Nat) (cs : Chars) : Nat := cs.foldl (fun n c => n * base + (digitValue? base c).getD 0) 0

def escapes : List (Char × Nat) :=
 [('a', 7), ('b', 8), ('f', 12), ('n', 10), ('r', 13), ('t', 9), ('v', 11), ('\\', 92)]

def dropEnd (drop : Char -> Bool) (cs : Chars) : Chars := (cs.reverse.dropWhile drop).reverse
def spelling (table : Array (Nat × Chars)) (d : Chars) : Chars := ((table.find? (·.1 == c.toNat)).map (·.2)).getD d

def recased (plain : Char) (table : Array Shift) (spelt : Array (Nat × Chars)) : Chars :=
 if c.toNat < 128 then [plain]
 else match table.find? (·.covers c.toNat) with
  | some t => [.ofNat (.ofNat c.toNat + t.distance).toNat]
  | none => spelling c spelt [c]

def capital : Chars := recased c c.toUpper toCapital toCapitals
def small : Chars := recased c c.toLower toSmall toSmalls

def capitalsOf (code : Nat) : List Nat :=
 let moved := toSmall.toList.filterMap fun t =>
  let from_ := (.ofNat code - t.distance).toNat
  if t.covers from_ then some from_ else none
 let spelt := toSmalls.toList.filterMap fun (from_, small) => if small.head? == some (.ofNat code) then some from_ else none
 (if 97 ≤ code && code ≤ 122 then [code - 32] else []) ++ moved ++ spelt

def hasCase (plain : Bool) (other : Chars) (rs : Runs) : Bool :=
 if c.toNat < 128 then plain else (other != [c] && !within titleRuns c.toNat) || within rs c.toNat

def isSmall : Bool := hasCase c c.isLower (capital c) smallRuns
def isCapital : Bool := hasCase c c.isUpper (small c) capitalRuns

def passingRuns : Runs := runs <|
 "W161;1S111bL141114131lNbUcN24192g02eS151dC1;6F1S1dK1b61f=241d<172b<Jd=1bcP1cY1n61boR1b;1b91bF2mL1F1k;6e2bD=1RUlT1
  13;3=3=3=2<582:12125b651:11=1@=bE8cr02fJ1eC1kW1b0551c94c73zl?1bd36g<1c=3<1L2c<RbS1G3cA332kW1F1d81cF1E2c@593sjWA
  nQ1bC121dX17161;1S111b41cL1E3bsP61Z19cbK1?1icL9mpJ4zL=bE211or=41712cx84etV8dpM7bvX1clJ5bbeeI1Nc:"

def isCased : Bool := isSmall c || isCapital c || within titleRuns c.toNat

def smallBetween (pre : Chars) (c : Char) (after : Chars) : Chars :=
 let meets (cs : Chars) : Bool := (cs.dropWhile fun c => [markRuns, passingRuns].any (within · c.toNat)).head?.any isCased
 if c == 'Σ' then [if meets pre && !meets after then 'ς' else 'σ'] else small c

def lowered : String :=
 let rec go (pre : Chars) : Chars -> Chars
  | [] => []
  | c :: rest => smallBetween pre c rest ++ go (c :: pre) rest
 .ofList (go [] s.toList)

def raised : String := .ofList (s.toList.flatMap capital)
def trimmed : String := .ofList (dropEnd isBlank (s.toList.dropWhile isBlank))

def words : Texts :=
 let rec go (cur : Chars) : Chars -> Texts
  | [] => if cur.isEmpty then [] else [.ofList cur.reverse]
  | c :: rest =>
   if isBlank c then
    if cur.isEmpty then go [] rest else .ofList cur.reverse :: go [] rest
   else go (c :: cur) rest
 go [] s.toList

def lines : Texts :=
 let ends (c : Char) : Bool :=
  let n := c.toNat
  (10 ≤ n && n ≤ 13) || (28 ≤ n && n ≤ 30) || n == 133 || n == 8232 || n == 8233
 let rec go (cur : Chars) : Chars -> Texts
  | [] => if cur.isEmpty then [] else [.ofList cur.reverse]
  | '\r' :: '\n' :: rest => .ofList cur.reverse :: go [] rest
  | c :: rest => if ends c then .ofList cur.reverse :: go [] rest else go (c :: cur) rest
 go [] s.toList

def divided (row : String) : Texts := (row.splitOn "|").map trimmed

def nameRows : List (Nat × String) :=
 [(0x20, "SPACE|EXCLAMATION MARK|QUOTATION MARK|NUMBER SIGN|DOLLAR SIGN|PERCENT SIGN|AMPERSAND|APOSTROPHE|
  LEFT PARENTHESIS|RIGHT PARENTHESIS|ASTERISK|PLUS SIGN|COMMA|HYPHEN-MINUS|FULL STOP|SOLIDUS|DIGIT ZERO|
  DIGIT ONE|DIGIT TWO|DIGIT THREE|DIGIT FOUR|DIGIT FIVE|DIGIT SIX|DIGIT SEVEN|DIGIT EIGHT|DIGIT NINE|
  COLON|SEMICOLON|LESS-THAN SIGN|EQUALS SIGN|GREATER-THAN SIGN|QUESTION MARK|COMMERCIAL AT"),
 (0x5b, "LEFT SQUARE BRACKET|REVERSE SOLIDUS|RIGHT SQUARE BRACKET|CIRCUMFLEX ACCENT|LOW LINE|GRAVE ACCENT"),
 (0x7b, "LEFT CURLY BRACKET|VERTICAL LINE|RIGHT CURLY BRACKET|TILDE"),
 (0xa0, "NO-BREAK SPACE|INVERTED EXCLAMATION MARK|CENT SIGN|POUND SIGN|CURRENCY SIGN|YEN SIGN|BROKEN BAR|
  SECTION SIGN|DIAERESIS|COPYRIGHT SIGN|FEMININE ORDINAL INDICATOR|
  LEFT-POINTING DOUBLE ANGLE QUOTATION MARK|NOT SIGN|SOFT HYPHEN|REGISTERED SIGN|MACRON|DEGREE SIGN|
  PLUS-MINUS SIGN|SUPERSCRIPT TWO|SUPERSCRIPT THREE|ACUTE ACCENT|MICRO SIGN|PILCROW SIGN|MIDDLE DOT|
  CEDILLA|SUPERSCRIPT ONE|MASCULINE ORDINAL INDICATOR|RIGHT-POINTING DOUBLE ANGLE QUOTATION MARK|
  VULGAR FRACTION ONE QUARTER|VULGAR FRACTION ONE HALF|VULGAR FRACTION THREE QUARTERS|
  INVERTED QUESTION MARK"),
 (0xd7, "MULTIPLICATION SIGN"), (0xdf, "LATIN SMALL LETTER SHARP S"), (0xf7, "DIVISION SIGN"),
 (0xff, "LATIN SMALL LETTER Y WITH DIAERESIS"),
 (0x2010, "HYPHEN|NON-BREAKING HYPHEN|FIGURE DASH|EN DASH|EM DASH|HORIZONTAL BAR|DOUBLE VERTICAL LINE|
  DOUBLE LOW LINE|LEFT SINGLE QUOTATION MARK|RIGHT SINGLE QUOTATION MARK|SINGLE LOW-9 QUOTATION MARK|
  SINGLE HIGH-REVERSED-9 QUOTATION MARK|LEFT DOUBLE QUOTATION MARK|RIGHT DOUBLE QUOTATION MARK|
  DOUBLE LOW-9 QUOTATION MARK|DOUBLE HIGH-REVERSED-9 QUOTATION MARK|DAGGER|DOUBLE DAGGER|BULLET|
  TRIANGULAR BULLET|ONE DOT LEADER|TWO DOT LEADER|HORIZONTAL ELLIPSIS|HYPHENATION POINT"),
 (0x2030, "PER MILLE SIGN|PER TEN THOUSAND SIGN|PRIME|DOUBLE PRIME|TRIPLE PRIME|REVERSED PRIME|
  REVERSED DOUBLE PRIME|REVERSED TRIPLE PRIME|CARET|SINGLE LEFT-POINTING ANGLE QUOTATION MARK|
  SINGLE RIGHT-POINTING ANGLE QUOTATION MARK"),
 (0x0, "NULL|START OF HEADING|START OF TEXT|END OF TEXT|END OF TRANSMISSION|ENQUIRY|ACKNOWLEDGE|ALERT|BACKSPACE|
  CHARACTER TABULATION|LINE FEED|LINE TABULATION|FORM FEED|CARRIAGE RETURN|SHIFT OUT|SHIFT IN|
  DATA LINK ESCAPE|DEVICE CONTROL ONE|DEVICE CONTROL TWO|DEVICE CONTROL THREE|DEVICE CONTROL FOUR|
  NEGATIVE ACKNOWLEDGE|SYNCHRONOUS IDLE|END OF TRANSMISSION BLOCK|CANCEL|END OF MEDIUM|SUBSTITUTE|ESCAPE|
  INFORMATION SEPARATOR FOUR|INFORMATION SEPARATOR THREE|INFORMATION SEPARATOR TWO|
  INFORMATION SEPARATOR ONE"),
 (0x8, "BS|TAB|LF|VT|FF|CR"), (0x9, "HORIZONTAL TABULATION|NEW LINE|VERTICAL TABULATION"), (0xa, "END OF LINE"),
 (0xa, "NL"), (0xa, "EOL"), (0x7f, "DELETE"), (0x85, "NEXT LINE"), (0xa0, "NBSP"), (0xad, "SHY"), (0x1b, "ESC"),
 (0x0, "NUL"), (0x7, "BEL"), (0x9, "HT"), (0x7f, "DEL"), (0x85, "NEL")]

def greekNames : Texts := words
 "ALPHA BETA GAMMA DELTA EPSILON ZETA ETA THETA IOTA KAPPA LAMDA MU NU XI OMICRON PI RHO SIGMA TAU UPSILON PHI CHI PSI OMEGA"

/-- The letters from U+00C0 and from U+00E0 on; what is not in capitals here is no letter. -/
def accentedNames : Texts :=
 divided ("A_GRAVE|A_ACUTE|A_CIRCUMFLEX|A_TILDE|A_DIAERESIS|A_RING ABOVE|AE|C_CEDILLA|E_GRAVE|E_ACUTE|E_CIRCUMFLEX|
  E_DIAERESIS|I_GRAVE|I_ACUTE|I_CIRCUMFLEX|I_DIAERESIS|ETH|N_TILDE|O_GRAVE|O_ACUTE|O_CIRCUMFLEX|O_TILDE|
  O_DIAERESIS|sign|O_STROKE|U_GRAVE|U_ACUTE|U_CIRCUMFLEX|U_DIAERESIS|Y_ACUTE|THORN".replace "_" " WITH ")

def namedLetter? (name kind : String) (letters : Texts) (start : Nat) : Option Nat :=
 if name.startsWith kind then (letters.findIdx? (kind ++ · == name)).map (start + ·) else none

def named? (name : String) : Option Nat :=
 let name := .ofList (name.toList.map .toUpper)
 let letters := (List.range 26).map fun k => String.singleton (Char.ofNat (65 + k))
 let greek (kind : String) (start : Nat) : Option Nat :=
  (namedLetter? name kind greekNames start).map fun code => if code - start < 17 then code else code + 1
 let latin (kind : String) (start : Nat) : Option Nat :=
  namedLetter? name kind letters start <|> namedLetter? name kind accentedNames (start + 127)
 latin "LATIN SMALL LETTER " 97 <|> latin "LATIN CAPITAL LETTER " 65 <|>
  greek "GREEK SMALL LETTER " 0x3b1 <|> greek "GREEK CAPITAL LETTER " 0x391 <|>
  (if name == "GREEK SMALL LETTER FINAL SIGMA" then some 0x3c2 else none) <|>
  nameRows.findSome? fun (start, row) => ((divided row).idxOf? name).map (start + ·)

end Letters
end AnimationGraph
