import RelationQuery.Text.Runs

/-!
# General categories

The property General_Category of every character.
-/

namespace RelationQuery.Text

inductive Category where
  | uppercaseLetter
  | lowercaseLetter
  | titlecaseLetter
  | modifierLetter
  | otherLetter
  | nonspacingMark
  | spacingMark
  | enclosingMark
  | decimalNumber
  | letterNumber
  | otherNumber
  | connectorPunctuation
  | dashPunctuation
  | openPunctuation
  | closePunctuation
  | initialPunctuation
  | finalPunctuation
  | otherPunctuation
  | mathSymbol
  | currencySymbol
  | modifierSymbol
  | otherSymbol
  | spaceSeparator
  | lineSeparator
  | paragraphSeparator
  | control
  | format
  | surrogate
  | privateUse
  | unassigned
  deriving DecidableEq, Repr

namespace Category

def abbreviation : Category → String
  | .uppercaseLetter => "Lu"
  | .lowercaseLetter => "Ll"
  | .titlecaseLetter => "Lt"
  | .modifierLetter => "Lm"
  | .otherLetter => "Lo"
  | .nonspacingMark => "Mn"
  | .spacingMark => "Mc"
  | .enclosingMark => "Me"
  | .decimalNumber => "Nd"
  | .letterNumber => "Nl"
  | .otherNumber => "No"
  | .connectorPunctuation => "Pc"
  | .dashPunctuation => "Pd"
  | .openPunctuation => "Ps"
  | .closePunctuation => "Pe"
  | .initialPunctuation => "Pi"
  | .finalPunctuation => "Pf"
  | .otherPunctuation => "Po"
  | .mathSymbol => "Sm"
  | .currencySymbol => "Sc"
  | .modifierSymbol => "Sk"
  | .otherSymbol => "So"
  | .spaceSeparator => "Zs"
  | .lineSeparator => "Zl"
  | .paragraphSeparator => "Zp"
  | .control => "Cc"
  | .format => "Cf"
  | .surrogate => "Cs"
  | .privateUse => "Co"
  | .unassigned => "Cn"

def ofLetter : Char → Category
  | 'U' => .uppercaseLetter
  | 'L' => .lowercaseLetter
  | 'T' => .titlecaseLetter
  | 'M' => .modifierLetter
  | 'O' => .otherLetter
  | 'n' => .nonspacingMark
  | 'm' => .spacingMark
  | 'o' => .enclosingMark
  | 'D' => .decimalNumber
  | 'R' => .letterNumber
  | 'N' => .otherNumber
  | 'k' => .connectorPunctuation
  | 'h' => .dashPunctuation
  | 's' => .openPunctuation
  | 't' => .closePunctuation
  | 'i' => .initialPunctuation
  | 'j' => .finalPunctuation
  | 'p' => .otherPunctuation
  | 'g' => .mathSymbol
  | 'u' => .currencySymbol
  | 'v' => .modifierSymbol
  | 'w' => .otherSymbol
  | 'Z' => .spaceSeparator
  | 'y' => .lineSeparator
  | 'z' => .paragraphSeparator
  | 'C' => .control
  | 'F' => .format
  | 'S' => .surrogate
  | 'P' => .privateUse
  | _ => .unassigned

def table : RunTable Char := .ofLetters [
  "C20Zp3up3stpgphp2Dap2g3p2U1asptvkvL1asgtgC21Zpu4wpvwOigFwvwgN2vLp2vNOjN3pU17gU7L18gL8ULULULULU",
  "LULULULULULULULULULULULULULULULULULULULULULULUL2ULULULULULULULUL2ULULULULULULULULULULULULULULU",
  "LULULULULULULULULU2LULUL3U2LULU2LU3L2U4LU2LU3L3U2LU2LULULU2LUL2ULU2LU3LULU2L2OUL3O4UTLUTLUTLUL",
  "ULULULULULULUL2ULULULULULULULULUL2UTLULU3LULULULULULULULULULULULULULULULULULULULULULULULULULUL",
  "ULULUL7U2LU2L2ULU4LULULULUL45OL1bM12v4McveM5v7MvMv11n70ULULMvULX2ML3pUX4v2UpU3XUXU2LU11XU9L23U",
  "L2U3L3ULULULULULULULULULULULUL5ULgULU2L2U33L30ULULULULULULULULULULULULULULULULULwn5o2ULULULULU",
  "LULULULULULULULULULULULULULULULULULULULULULULU2LULULULULULUL2ULULULULULULULULULULULULULULULULU",
  "LULULULULULULULULULULULULULULULULULULULULULULULULULULULULULULULXU26X2Mp6L29phX2w2uXn2dhnpn2pn2",
  "pnX8O1bX4O4p2XbF6g3p2up2w2nbpFp3O20MOan15Dap4O2nO63pOn7Fwn6M2n2wn4O2DaO3w2OpeXFOnO1en1bX2O59nb",
  "OXeDaO21n9M2wp3MX2nu2O16n4Mn9Mn3Mn5X2pfXO19n3X2pXObX5O18vO6XF2X5n9O29Mn18Fn20mO36nmnOm3n8m4nm2",
  "On7Oan2p2DapMOfnm2XO8X2O2X2O16XO7XOX3O4X2nOm3n4X2m2X2m2nOX8mX4O2XO3n2X2DaO2u2N6wuOpnX2n2mXO6X4",
  "O2X2O16XO7XO2XO2XO2X2nXm3n2X4n2X2n3X3nX7O4XOX7Dan2O3npXan2mXO9XO3XO16XO7XO2XO5X2nOm3n5Xn2mXm2n",
  "X2OXfO2n2X2DapuX7On6Xnm2XO8X2O2X2O16XO7XO2XO5X2nOmnmn4X2m2X2m2nX7n2mX4O2XO3n2X2DawON6XanOXO6X3",
  "O3XO4X3O2XOXO2X3O2X3O3X3OcX4m2nm2X3m3Xm3nX2OX6mXeDaN3w6uwX5nm3nO8XO3XO17XO10X2nOn3m4Xn3Xn4X7n2",
  "XO3X2OX2O2n2X2DaX7pN7wOnm2pO8XO3XO17XOaXO5X2nOmnm5Xnm2Xm2n2X7m2X6O2XO2n2X2DaXO2mXcn2m2O9XO3XO2",
  "9n2Om3n4Xm3Xm3nOwX4O3mN7O3n2X2DaN9wO6Xnm2XO12X3O18XO9XOX2O7X3nX4m3n3XnXm8X6DaX2m2pXcO30nO2n7X4",
  "uO6Mn8pDap2X25O2XOXO5XO18XOXOanO2n9OX2O5XMXn7XDaX2O4X20Ow3pfwpw3n2w6DaNawnwnwnststm2O8XO24X4ne",
  "mn5pn2O5nbXn24Xw8nw6Xw2p5w4p2X25O2bm2n4mn6mn2m2n2ODap6O6m2n2O4n3Om3O2m7O3n4Odnm2n2m6nOmDam3nw2",
  "U26XUX5UX2L2bpML3O149XO4X2O7XOXO4X2O29XO4X2O21XO4X2O7XOXO4X2OfXO39XO4X2O43X2n3p9N14X3O10waX6U5",
  "6X2L6X2hO26cwpO11ZO1astX3O4bp3R3O8X7O12n3mX9O13n2mp2X9O12n2XcOdXO3Xn2XcO34n2mn7m8nm2nbp3Mp3uOn",
  "X2DaX6NaX6p6hp4n3FnDaX6O23MO35X7O5n2O22nOX5O46XaO1fXn3m4n2m3X4m2nm6n3X4wX3p2DaO1eX2O5XbO2cX4O1",
  "aX6DaNX3w22O17n2m2nX2p2O35mnmn7Xnmnm2n8m6naX2nDaX6DaX6p7Mp6X2neon10X31n4mO2fnmn5mnm5nm2O8Xp2Da",
  "p7wan9w9p3n2mO1emn4m2n2mn3O2DaO2cnmn2m3nmn3m2X8p4O24m8n8m2n2X3p5DaX3O3DaO1eM6p2L9ULX5U2bX2U3p8",
  "X8n3pndmn7O4nO6nO2mn2OX5L2cM3fLdML22M25n40ULULULULULULULULULULULULULULULULULULULULULULULULULUL",
  "ULULULULULULULULULULULULULULULULULULULULULULULULULULULULULULULULULULULULULULULULULULULULULULUL",
  "ULUL9ULULULULULULULULULULULULULULULULULULULULULULULULULULULULULULULULULULULULULULULULULULULULU",
  "LULULULUL9U8L6X2U6X2L8U8L8U8L6X2U6X2L8XUXUXUXUL8U8LeX2L8T8L8T8L8T8L5XL2U4TvLv3L3XL2U4Tv3L4X2L2",
  "U4Xv3L8U5v3X2L3XL2U4Tv2XZbF5h6p2ijsi2jsip8yzF5Zp9ijp4k2p3gstpbgpkpaZF5XFaNMX2N6g3stMNag3stXMdX",
  "3u21Xfndo4no3ncXfw2Uw4Uw2LU3L2U3LwUw2gU5w6UwUwUwU4wLU4LO4Lw2L2U2g5UL4wgw2LwN10R23ULR4Nw2X4g5w5",
  "g2w4gw2gw2gw7gw1fg2w2gwgw1fg10cw8ststw14g2w7stw51gw1eg19w28g6w48X16wbX15N3cw4eN16wb7gw9gw36g8w",
  "6fgwf8stststststststN1ew2cg5stg1fstststststg10w100g83stststststststststststg3fststg20stg102w30",
  "g15w2g6w27X2w20Xw69U30L30ULU3L2ULULULU4LUL2UL6M2U3LULULULULULULULULULULULULULULULULULULULULULU",
  "LULULULULULULULULULULULULULULULULULULULULULULULULULULUL2w6ULULn3ULX5p4Np2L26XLX5LX2O38X7MpXenO",
  "17X9O7XO7XO7XO7XO7XO7XO7XO7Xn20p2ijijp3ijpijp9hp2hpijp2ijststststp5Mpah2p4hpspdw2p3ststststhX2",
  "2w1aXw59Xcwd6X1aw10Zp3wMORstststststw2ststststhst2wR9n4m2hM5w2R3MOpw2XO56X2n2v2M2OhO5apM3OX5O2",
  "bXO5eXw2N4waO20w26X9wO10w1fXNaw1eN8wNfw20Naw27Nfw140O19c0w40O5215MO477X3w37X9O28M6p2O10cMp3O10",
  "DaO2X14ULULULULULULULULULULULULULULULULULULULULULULULOno3pnapMULULULULULULULULULULULULULULM2n2",
  "O46Ran2p6X8v17M9v2ULULULULULULUL3ULULULULULULULULULULULULULULULULULULULULULULULULULULULULULULU",
  "LML8ULULU2LULULULULMv2ULULOULUL3ULULULULULULULULULULU5LU5LULULULULULULULU4LULU2LX2ULXLXLULULUL",
  "UX15M3ULOM2LO7nO3nO4nO17m2n2mw4nX3N6w2uwX6O34p4X8m2O32m10n2X8p2DaX6n12O6p3OpO2nDaO1cn8p2O17nbm",
  "2XbpO1dX3n3mO2fnm2n4m2n2m3pdXMDaX4p2O5nMO9DaO5XO29n6m2n2m2n2X9O3nO8nmX2DaX2p4O10MO6w3OmnmO32nO",
  "n3O2n2O5n2OnOX18O2Mp2Obmn2m2p2OM2mnXaO6X2O6X2O6X9O7XO7XL2bvM4L9Mv2X4L50O23m2nm2nm2pmnX2DaX6O2b",
  "a4XcO17X4O31X4S800P1900O16eX2O6aX26L7XcL5X5OnOagOdXO5XOXO2XO2XO6cv11X10O16btsw10O40X2O36X7wX20",
  "Ocuw3n10p7stpX6n10ph2k2ststststststststp2stp4k3p3Xp4hstststp3ghg3Xpup2X4O5XO87X2FXp3up3stpgphp",
  "2Dap2g3p2U1asptvkvL1asgtgstpstp2OaMO2dM2O1fX3O6X2O6X2O6X2O3X3u2gvwu2Xwg4w2XaF3w2X2OcXO1aXO13XO",
  "2XOfX2OeX22O7bX5p3X4N2dX3w9R35N4w11N2w3XwdX3wX2fw2dnX82O1dX3O31XfnN1bX4O20N4X9O14RO8RX5O26n5X5",
  "O1eXpO24X4O8pR5X2aU28L28O4eX2DaX6U24X4L24X4O28X8O34XbpUbXUfXU7XU2XLbXLfXL7XL2X3O34XcO137X9O16X",
  "aO8X18M6XM2aXM9X45O6X2OXO2cXO2X3OX2O17XpN8O17w2N7O1fX8N9X30O13XO2X5N5O16N6X3pO1aX5pX40O38X4N2O",
  "2N10X2N2eOn3Xn2X5n4O4XO3XO1dX2n3X4nN9X7p9X7O1dN2pO1dN3X20O8wO1cn2X4N5p7X9O36X3p7O16X2N8O13X5N8",
  "O12X7p4XcN7X50O49X37U33XdL33X7N6O24n4X8DaX6DaO4MOU16X3n5hML16X8g2Xd0N1fXO2aXn2hX2O2X10O3X37n4O",
  "1dNaOX8O16nbN4p5X16O12n4p4X26O15N7X14O17X9mnmO35nfp7X4N14DanO2n2OX9n3mO2dm3n4m2n2p2Fp4nXaFX2O1",
  "9X7DaX6n3O24n5mn8XDap4Om2OX8O23np2OX9n2mO30m3n9m2O4p4n4pmnDaOpOp3XN14XbO12XO19m3n3m2nmn2p6nO2n",
  "X3eO7XOXO4XOfXOapX6O2fnm3n8X5DaX6n2m2XO8X2O2X2O16XO7XO2XO5Xn2Om2nm4X2m2X2m3X2OX6mX5O5m2X2n7X3n",
  "5XbOaXOX2OXO26XOm3n6XmX2mXm4Xm2nmnOnOp2Xp2X8n2X1dO35m3n8m2n3mnO4p5Dap2XpnO3X1eO30m3n6mnm4n2mn2",
  "O2pOX8DaXa6O2fm3n4X2m4n2mn2p17O4n2X22O30m3n8m2nmn2p3OXbDaX6pdX13O2bnmnm2n6mnOpX6DaX6D14X1cO1bX",
  "2nmnm2n4mn5X4DaN2p3wO7Xb9O2cm3n9mn2pX64U20L20DaN9XcO8X2OX2O8XO2XO18m6Xm2X2n2mnOmOmnp3X9DaX46O8",
  "X2O27m3n4X2n2m4nOpOmX1bOnaO28n6mOn4p8nX8On6m2n3O2endmn2p3Op5XdO49X7paXb6O21pXeDaX6O9XO25mn7Xn6",
  "mnOp5XaDaN13X3p2O1eX2n16Xmn7mn2mn2X49O7XO2XO26n6X3nXn2Xn7OnX8DaX6O6XO2XO20m5Xn2Xm2nmnOX7DaX136",
  "O13n2m2p2X7n2OmOdXO22m2n5X3m2nmnpdDanX55OXfN15w8u4w11XdpO39aX66R6fXp5XbOc4Xa4cO61p2XdO430F10nO",
  "6nfXaOf9bX5O247X1ab9O1encm3n3DaX6c6O239X7O1fXDaX4p2O4fXDaX6O1eX2n5pXaO30n7p5w4M4pwXaDaXN7XO15X",
  "5O13X1b0M3O28M2p3DaXc6U20L20N17p4X65O4bX4nOm37X7n4MdX40M2pMnXbm2XeO17f8X8O4d6X29OaX22e7M4XM7XM",
  "2XO123XfOX1dO3X2OXeO4X8O18cX904O6bX5OdX3O9X7OaX2wn2pF4Xf5cwf0DaX6w1b4X4cn2eX2n17X9w74X3cwf6Xaw",
  "27X2w3cm2n3w3m6F8n8w2n7w1en4w3dX15w42n3wX7aN14XcN14Xcw57X9N19X87U1aL1aU1aL7XL12U1aL1aUXU2X2UX2",
  "U2X2U4XU8L4XLXL7XLbU1aL1aU2XU4X2U8XU7XL1aU2XU4XU5XUX3U7XL1aU1aL1aU1aL1aU1aL1aU1aL1aU1aL1aU1aL1",
  "cX2U19gL19gL6U19gL19gL6U19gL19gL6U19gL19gL6U19gL19gL6ULX2D32w200n37w4n32w8nwenw2p5Xfn5XnfX450L",
  "aOL14X6L6Xd5n7Xn11X2n7Xn2Xn5X5M3eX21nX70O2dX3n7M7X2DaX4OwX140O1enX11O2cn4DaX5uX1d0O1bMn4DaXd6O",
  "1en2ODaX4pX1e0O7XO4XO2XOfXOc5X2N9n7X29U22L22n7MX4DaX4p2X311N3bwN3uN4X4cN2dwNfXc2O4XO1bXO2XOX2O",
  "XOaXO4XOXOX6OX4OXOXOXO3XO2XOX2OXOXOXOXOXO2XOX2O4XO7XO4XO4XOXOaXO11X5O3XO5XO11X34g2X10ew2cX4w64",
  "XcwfX2wfXwfXw25XaNdwa1X38w1dXdw2cX4w9X7w2Xew6X9awfbv5w2d8X4w11X3wdX3w77X4w5fX6wcX4wXfwcX4w38X8",
  "waX6w28X8w1eX2wcX4w2X3ew154XcweX2wdX3waX5w38X7wfX2wbX6w9X7w93Xw5cDaX406Oa6e0X20O103aX6OdeX2O16",
  "82XeO1d31XfO26eX9a2O21eX5e2O134bX5O1060Xadc51FX1eF60X80nf0Xfe10PfffeX2PfffeX2"]

def setOf (wanted : List Category) : CharSet :=
  table.set fun letter => wanted.contains (ofLetter letter)

/-! ## Names -/

/-- The categories of characters; surrogates are none. -/
def all : List Category :=
  [.uppercaseLetter, .lowercaseLetter, .titlecaseLetter, .modifierLetter, .otherLetter,
    .nonspacingMark, .spacingMark, .enclosingMark, .decimalNumber, .letterNumber, .otherNumber,
    .connectorPunctuation, .dashPunctuation, .openPunctuation, .closePunctuation,
    .initialPunctuation, .finalPunctuation, .otherPunctuation, .mathSymbol, .currencySymbol,
    .modifierSymbol, .otherSymbol, .spaceSeparator, .lineSeparator, .paragraphSeparator, .control,
    .format, .privateUse, .unassigned]

def longNames : Category → List String
  | .uppercaseLetter => ["uppercaseletter"]
  | .lowercaseLetter => ["lowercaseletter"]
  | .titlecaseLetter => ["titlecaseletter"]
  | .modifierLetter => ["modifierletter"]
  | .otherLetter => ["otherletter"]
  | .nonspacingMark => ["nonspacingmark"]
  | .spacingMark => ["spacingmark"]
  | .enclosingMark => ["enclosingmark"]
  | .decimalNumber => ["decimalnumber", "digit"]
  | .letterNumber => ["letternumber"]
  | .otherNumber => ["othernumber"]
  | .connectorPunctuation => ["connectorpunctuation"]
  | .dashPunctuation => ["dashpunctuation"]
  | .openPunctuation => ["openpunctuation"]
  | .closePunctuation => ["closepunctuation"]
  | .initialPunctuation => ["initialpunctuation"]
  | .finalPunctuation => ["finalpunctuation"]
  | .otherPunctuation => ["otherpunctuation"]
  | .mathSymbol => ["mathsymbol"]
  | .currencySymbol => ["currencysymbol"]
  | .modifierSymbol => ["modifiersymbol"]
  | .otherSymbol => ["othersymbol"]
  | .spaceSeparator => ["spaceseparator"]
  | .lineSeparator => ["lineseparator"]
  | .paragraphSeparator => ["paragraphseparator"]
  | .control => ["control", "cntrl"]
  | .format => ["format"]
  | .surrogate => ["surrogate"]
  | .privateUse => ["privateuse"]
  | .unassigned => ["unassigned"]

def hasName (category : Category) (name : String) : Bool :=
  category.longNames.contains name ||
    category.abbreviation.toList.map Char.toLower == name.toList

/-- The groups of categories whose abbreviations start with one letter, by that letter. -/
def groups : List (Char × List String) :=
  [('L', ["l", "letter"]), ('M', ["m", "mark", "combiningmark"]), ('N', ["n", "number"]),
    ('P', ["p", "punctuation", "punct"]), ('S', ["s", "symbol"]), ('Z', ["z", "separator"]),
    ('C', ["c", "other"])]

def setOfName? (name : String) : Option CharSet :=
  if name == "lc" || name == "casedletter" then
    some (setOf [uppercaseLetter, lowercaseLetter, titlecaseLetter])
  else
    match groups.find? fun group => group.2.contains name with
    | some (letter, _) =>
        some (setOf (all.filter fun category => category.abbreviation.toList.head? == some letter))
    | none => (all.find? fun category => category.hasName name).map fun category => setOf [category]

end Category

def category (c : Char) : Category :=
  ((Category.table.value? c).map Category.ofLetter).getD .unassigned

end RelationQuery.Text
