/-!
# Selenese.CharRef.Capitals

The named character references of HTML whose names begin with a capital letter, by first letter: each name without its
final semicolon, and the one or two code points it stands for.
-/

namespace Selenese.CharRef

def capitalA : List (String × List Nat) := [
  ("AElig", [0xc6]), ("AMP", [0x26]), ("Aacute", [0xc1]), ("Abreve", [0x102]), ("Acirc", [0xc2]),
  ("Acy", [0x410]), ("Afr", [0x1d504]), ("Agrave", [0xc0]), ("Alpha", [0x391]),
  ("Amacr", [0x100]), ("And", [0x2a53]), ("Aogon", [0x104]), ("Aopf", [0x1d538]),
  ("ApplyFunction", [0x2061]), ("Aring", [0xc5]), ("Ascr", [0x1d49c]), ("Assign", [0x2254]),
  ("Atilde", [0xc3]), ("Auml", [0xc4])]

def capitalB : List (String × List Nat) := [
  ("Backslash", [0x2216]), ("Barv", [0x2ae7]), ("Barwed", [0x2306]), ("Bcy", [0x411]),
  ("Because", [0x2235]), ("Bernoullis", [0x212c]), ("Beta", [0x392]), ("Bfr", [0x1d505]),
  ("Bopf", [0x1d539]), ("Breve", [0x2d8]), ("Bscr", [0x212c]), ("Bumpeq", [0x224e])]

def capitalC : List (String × List Nat) := [
  ("CHcy", [0x427]), ("COPY", [0xa9]), ("Cacute", [0x106]), ("Cap", [0x22d2]),
  ("CapitalDifferentialD", [0x2145]), ("Cayleys", [0x212d]), ("Ccaron", [0x10c]),
  ("Ccedil", [0xc7]), ("Ccirc", [0x108]), ("Cconint", [0x2230]), ("Cdot", [0x10a]),
  ("Cedilla", [0xb8]), ("CenterDot", [0xb7]), ("Cfr", [0x212d]), ("Chi", [0x3a7]),
  ("CircleDot", [0x2299]), ("CircleMinus", [0x2296]), ("CirclePlus", [0x2295]),
  ("CircleTimes", [0x2297]), ("ClockwiseContourIntegral", [0x2232]),
  ("CloseCurlyDoubleQuote", [0x201d]), ("CloseCurlyQuote", [0x2019]), ("Colon", [0x2237]),
  ("Colone", [0x2a74]), ("Congruent", [0x2261]), ("Conint", [0x222f]),
  ("ContourIntegral", [0x222e]), ("Copf", [0x2102]), ("Coproduct", [0x2210]),
  ("CounterClockwiseContourIntegral", [0x2233]), ("Cross", [0x2a2f]), ("Cscr", [0x1d49e]),
  ("Cup", [0x22d3]), ("CupCap", [0x224d])]

def capitalD : List (String × List Nat) := [
  ("DD", [0x2145]), ("DDotrahd", [0x2911]), ("DJcy", [0x402]), ("DScy", [0x405]),
  ("DZcy", [0x40f]), ("Dagger", [0x2021]), ("Darr", [0x21a1]), ("Dashv", [0x2ae4]),
  ("Dcaron", [0x10e]), ("Dcy", [0x414]), ("Del", [0x2207]), ("Delta", [0x394]),
  ("Dfr", [0x1d507]), ("DiacriticalAcute", [0xb4]), ("DiacriticalDot", [0x2d9]),
  ("DiacriticalDoubleAcute", [0x2dd]), ("DiacriticalGrave", [0x60]),
  ("DiacriticalTilde", [0x2dc]), ("Diamond", [0x22c4]), ("DifferentialD", [0x2146]),
  ("Dopf", [0x1d53b]), ("Dot", [0xa8]), ("DotDot", [0x20dc]), ("DotEqual", [0x2250]),
  ("DoubleContourIntegral", [0x222f]), ("DoubleDot", [0xa8]), ("DoubleDownArrow", [0x21d3]),
  ("DoubleLeftArrow", [0x21d0]), ("DoubleLeftRightArrow", [0x21d4]), ("DoubleLeftTee", [0x2ae4]),
  ("DoubleLongLeftArrow", [0x27f8]), ("DoubleLongLeftRightArrow", [0x27fa]),
  ("DoubleLongRightArrow", [0x27f9]), ("DoubleRightArrow", [0x21d2]),
  ("DoubleRightTee", [0x22a8]), ("DoubleUpArrow", [0x21d1]), ("DoubleUpDownArrow", [0x21d5]),
  ("DoubleVerticalBar", [0x2225]), ("DownArrow", [0x2193]), ("DownArrowBar", [0x2913]),
  ("DownArrowUpArrow", [0x21f5]), ("DownBreve", [0x311]), ("DownLeftRightVector", [0x2950]),
  ("DownLeftTeeVector", [0x295e]), ("DownLeftVector", [0x21bd]), ("DownLeftVectorBar", [0x2956]),
  ("DownRightTeeVector", [0x295f]), ("DownRightVector", [0x21c1]),
  ("DownRightVectorBar", [0x2957]), ("DownTee", [0x22a4]), ("DownTeeArrow", [0x21a7]),
  ("Downarrow", [0x21d3]), ("Dscr", [0x1d49f]), ("Dstrok", [0x110])]

def capitalE : List (String × List Nat) := [
  ("ENG", [0x14a]), ("ETH", [0xd0]), ("Eacute", [0xc9]), ("Ecaron", [0x11a]), ("Ecirc", [0xca]),
  ("Ecy", [0x42d]), ("Edot", [0x116]), ("Efr", [0x1d508]), ("Egrave", [0xc8]),
  ("Element", [0x2208]), ("Emacr", [0x112]), ("EmptySmallSquare", [0x25fb]),
  ("EmptyVerySmallSquare", [0x25ab]), ("Eogon", [0x118]), ("Eopf", [0x1d53c]),
  ("Epsilon", [0x395]), ("Equal", [0x2a75]), ("EqualTilde", [0x2242]), ("Equilibrium", [0x21cc]),
  ("Escr", [0x2130]), ("Esim", [0x2a73]), ("Eta", [0x397]), ("Euml", [0xcb]),
  ("Exists", [0x2203]), ("ExponentialE", [0x2147])]

def capitalF : List (String × List Nat) := [
  ("Fcy", [0x424]), ("Ffr", [0x1d509]), ("FilledSmallSquare", [0x25fc]),
  ("FilledVerySmallSquare", [0x25aa]), ("Fopf", [0x1d53d]), ("ForAll", [0x2200]),
  ("Fouriertrf", [0x2131]), ("Fscr", [0x2131])]

def capitalG : List (String × List Nat) := [
  ("GJcy", [0x403]), ("GT", [0x3e]), ("Gamma", [0x393]), ("Gammad", [0x3dc]),
  ("Gbreve", [0x11e]), ("Gcedil", [0x122]), ("Gcirc", [0x11c]), ("Gcy", [0x413]),
  ("Gdot", [0x120]), ("Gfr", [0x1d50a]), ("Gg", [0x22d9]), ("Gopf", [0x1d53e]),
  ("GreaterEqual", [0x2265]), ("GreaterEqualLess", [0x22db]), ("GreaterFullEqual", [0x2267]),
  ("GreaterGreater", [0x2aa2]), ("GreaterLess", [0x2277]), ("GreaterSlantEqual", [0x2a7e]),
  ("GreaterTilde", [0x2273]), ("Gscr", [0x1d4a2]), ("Gt", [0x226b])]

def capitalH : List (String × List Nat) := [
  ("HARDcy", [0x42a]), ("Hacek", [0x2c7]), ("Hat", [0x5e]), ("Hcirc", [0x124]),
  ("Hfr", [0x210c]), ("HilbertSpace", [0x210b]), ("Hopf", [0x210d]),
  ("HorizontalLine", [0x2500]), ("Hscr", [0x210b]), ("Hstrok", [0x126]),
  ("HumpDownHump", [0x224e]), ("HumpEqual", [0x224f])]

def capitalI : List (String × List Nat) := [
  ("IEcy", [0x415]), ("IJlig", [0x132]), ("IOcy", [0x401]), ("Iacute", [0xcd]),
  ("Icirc", [0xce]), ("Icy", [0x418]), ("Idot", [0x130]), ("Ifr", [0x2111]), ("Igrave", [0xcc]),
  ("Im", [0x2111]), ("Imacr", [0x12a]), ("ImaginaryI", [0x2148]), ("Implies", [0x21d2]),
  ("Int", [0x222c]), ("Integral", [0x222b]), ("Intersection", [0x22c2]),
  ("InvisibleComma", [0x2063]), ("InvisibleTimes", [0x2062]), ("Iogon", [0x12e]),
  ("Iopf", [0x1d540]), ("Iota", [0x399]), ("Iscr", [0x2110]), ("Itilde", [0x128]),
  ("Iukcy", [0x406]), ("Iuml", [0xcf])]

def capitalJ : List (String × List Nat) := [
  ("Jcirc", [0x134]), ("Jcy", [0x419]), ("Jfr", [0x1d50d]), ("Jopf", [0x1d541]),
  ("Jscr", [0x1d4a5]), ("Jsercy", [0x408]), ("Jukcy", [0x404])]

def capitalK : List (String × List Nat) := [
  ("KHcy", [0x425]), ("KJcy", [0x40c]), ("Kappa", [0x39a]), ("Kcedil", [0x136]),
  ("Kcy", [0x41a]), ("Kfr", [0x1d50e]), ("Kopf", [0x1d542]), ("Kscr", [0x1d4a6])]

def capitalL : List (String × List Nat) := [
  ("LJcy", [0x409]), ("LT", [0x3c]), ("Lacute", [0x139]), ("Lambda", [0x39b]),
  ("Lang", [0x27ea]), ("Laplacetrf", [0x2112]), ("Larr", [0x219e]), ("Lcaron", [0x13d]),
  ("Lcedil", [0x13b]), ("Lcy", [0x41b]), ("LeftAngleBracket", [0x27e8]), ("LeftArrow", [0x2190]),
  ("LeftArrowBar", [0x21e4]), ("LeftArrowRightArrow", [0x21c6]), ("LeftCeiling", [0x2308]),
  ("LeftDoubleBracket", [0x27e6]), ("LeftDownTeeVector", [0x2961]), ("LeftDownVector", [0x21c3]),
  ("LeftDownVectorBar", [0x2959]), ("LeftFloor", [0x230a]), ("LeftRightArrow", [0x2194]),
  ("LeftRightVector", [0x294e]), ("LeftTee", [0x22a3]), ("LeftTeeArrow", [0x21a4]),
  ("LeftTeeVector", [0x295a]), ("LeftTriangle", [0x22b2]), ("LeftTriangleBar", [0x29cf]),
  ("LeftTriangleEqual", [0x22b4]), ("LeftUpDownVector", [0x2951]), ("LeftUpTeeVector", [0x2960]),
  ("LeftUpVector", [0x21bf]), ("LeftUpVectorBar", [0x2958]), ("LeftVector", [0x21bc]),
  ("LeftVectorBar", [0x2952]), ("Leftarrow", [0x21d0]), ("Leftrightarrow", [0x21d4]),
  ("LessEqualGreater", [0x22da]), ("LessFullEqual", [0x2266]), ("LessGreater", [0x2276]),
  ("LessLess", [0x2aa1]), ("LessSlantEqual", [0x2a7d]), ("LessTilde", [0x2272]),
  ("Lfr", [0x1d50f]), ("Ll", [0x22d8]), ("Lleftarrow", [0x21da]), ("Lmidot", [0x13f]),
  ("LongLeftArrow", [0x27f5]), ("LongLeftRightArrow", [0x27f7]), ("LongRightArrow", [0x27f6]),
  ("Longleftarrow", [0x27f8]), ("Longleftrightarrow", [0x27fa]), ("Longrightarrow", [0x27f9]),
  ("Lopf", [0x1d543]), ("LowerLeftArrow", [0x2199]), ("LowerRightArrow", [0x2198]),
  ("Lscr", [0x2112]), ("Lsh", [0x21b0]), ("Lstrok", [0x141]), ("Lt", [0x226a])]

def capitalM : List (String × List Nat) := [
  ("Map", [0x2905]), ("Mcy", [0x41c]), ("MediumSpace", [0x205f]), ("Mellintrf", [0x2133]),
  ("Mfr", [0x1d510]), ("MinusPlus", [0x2213]), ("Mopf", [0x1d544]), ("Mscr", [0x2133]),
  ("Mu", [0x39c])]

def capitalN : List (String × List Nat) := [
  ("NJcy", [0x40a]), ("Nacute", [0x143]), ("Ncaron", [0x147]), ("Ncedil", [0x145]),
  ("Ncy", [0x41d]), ("NegativeMediumSpace", [0x200b]), ("NegativeThickSpace", [0x200b]),
  ("NegativeThinSpace", [0x200b]), ("NegativeVeryThinSpace", [0x200b]),
  ("NestedGreaterGreater", [0x226b]), ("NestedLessLess", [0x226a]), ("NewLine", [0xa]),
  ("Nfr", [0x1d511]), ("NoBreak", [0x2060]), ("NonBreakingSpace", [0xa0]), ("Nopf", [0x2115]),
  ("Not", [0x2aec]), ("NotCongruent", [0x2262]), ("NotCupCap", [0x226d]),
  ("NotDoubleVerticalBar", [0x2226]), ("NotElement", [0x2209]), ("NotEqual", [0x2260]),
  ("NotEqualTilde", [0x2242, 0x338]), ("NotExists", [0x2204]), ("NotGreater", [0x226f]),
  ("NotGreaterEqual", [0x2271]), ("NotGreaterFullEqual", [0x2267, 0x338]),
  ("NotGreaterGreater", [0x226b, 0x338]), ("NotGreaterLess", [0x2279]),
  ("NotGreaterSlantEqual", [0x2a7e, 0x338]), ("NotGreaterTilde", [0x2275]),
  ("NotHumpDownHump", [0x224e, 0x338]), ("NotHumpEqual", [0x224f, 0x338]),
  ("NotLeftTriangle", [0x22ea]), ("NotLeftTriangleBar", [0x29cf, 0x338]),
  ("NotLeftTriangleEqual", [0x22ec]), ("NotLess", [0x226e]), ("NotLessEqual", [0x2270]),
  ("NotLessGreater", [0x2278]), ("NotLessLess", [0x226a, 0x338]),
  ("NotLessSlantEqual", [0x2a7d, 0x338]), ("NotLessTilde", [0x2274]),
  ("NotNestedGreaterGreater", [0x2aa2, 0x338]), ("NotNestedLessLess", [0x2aa1, 0x338]),
  ("NotPrecedes", [0x2280]), ("NotPrecedesEqual", [0x2aaf, 0x338]),
  ("NotPrecedesSlantEqual", [0x22e0]), ("NotReverseElement", [0x220c]),
  ("NotRightTriangle", [0x22eb]), ("NotRightTriangleBar", [0x29d0, 0x338]),
  ("NotRightTriangleEqual", [0x22ed]), ("NotSquareSubset", [0x228f, 0x338]),
  ("NotSquareSubsetEqual", [0x22e2]), ("NotSquareSuperset", [0x2290, 0x338]),
  ("NotSquareSupersetEqual", [0x22e3]), ("NotSubset", [0x2282, 0x20d2]),
  ("NotSubsetEqual", [0x2288]), ("NotSucceeds", [0x2281]), ("NotSucceedsEqual", [0x2ab0, 0x338]),
  ("NotSucceedsSlantEqual", [0x22e1]), ("NotSucceedsTilde", [0x227f, 0x338]),
  ("NotSuperset", [0x2283, 0x20d2]), ("NotSupersetEqual", [0x2289]), ("NotTilde", [0x2241]),
  ("NotTildeEqual", [0x2244]), ("NotTildeFullEqual", [0x2247]), ("NotTildeTilde", [0x2249]),
  ("NotVerticalBar", [0x2224]), ("Nscr", [0x1d4a9]), ("Ntilde", [0xd1]), ("Nu", [0x39d])]

def capitalO : List (String × List Nat) := [
  ("OElig", [0x152]), ("Oacute", [0xd3]), ("Ocirc", [0xd4]), ("Ocy", [0x41e]),
  ("Odblac", [0x150]), ("Ofr", [0x1d512]), ("Ograve", [0xd2]), ("Omacr", [0x14c]),
  ("Omega", [0x3a9]), ("Omicron", [0x39f]), ("Oopf", [0x1d546]),
  ("OpenCurlyDoubleQuote", [0x201c]), ("OpenCurlyQuote", [0x2018]), ("Or", [0x2a54]),
  ("Oscr", [0x1d4aa]), ("Oslash", [0xd8]), ("Otilde", [0xd5]), ("Otimes", [0x2a37]),
  ("Ouml", [0xd6]), ("OverBar", [0x203e]), ("OverBrace", [0x23de]), ("OverBracket", [0x23b4]),
  ("OverParenthesis", [0x23dc])]

def capitalP : List (String × List Nat) := [
  ("PartialD", [0x2202]), ("Pcy", [0x41f]), ("Pfr", [0x1d513]), ("Phi", [0x3a6]),
  ("Pi", [0x3a0]), ("PlusMinus", [0xb1]), ("Poincareplane", [0x210c]), ("Popf", [0x2119]),
  ("Pr", [0x2abb]), ("Precedes", [0x227a]), ("PrecedesEqual", [0x2aaf]),
  ("PrecedesSlantEqual", [0x227c]), ("PrecedesTilde", [0x227e]), ("Prime", [0x2033]),
  ("Product", [0x220f]), ("Proportion", [0x2237]), ("Proportional", [0x221d]),
  ("Pscr", [0x1d4ab]), ("Psi", [0x3a8])]

def capitalQ : List (String × List Nat) := [
  ("QUOT", [0x22]), ("Qfr", [0x1d514]), ("Qopf", [0x211a]), ("Qscr", [0x1d4ac])]

def capitalR : List (String × List Nat) := [
  ("RBarr", [0x2910]), ("REG", [0xae]), ("Racute", [0x154]), ("Rang", [0x27eb]),
  ("Rarr", [0x21a0]), ("Rarrtl", [0x2916]), ("Rcaron", [0x158]), ("Rcedil", [0x156]),
  ("Rcy", [0x420]), ("Re", [0x211c]), ("ReverseElement", [0x220b]),
  ("ReverseEquilibrium", [0x21cb]), ("ReverseUpEquilibrium", [0x296f]), ("Rfr", [0x211c]),
  ("Rho", [0x3a1]), ("RightAngleBracket", [0x27e9]), ("RightArrow", [0x2192]),
  ("RightArrowBar", [0x21e5]), ("RightArrowLeftArrow", [0x21c4]), ("RightCeiling", [0x2309]),
  ("RightDoubleBracket", [0x27e7]), ("RightDownTeeVector", [0x295d]),
  ("RightDownVector", [0x21c2]), ("RightDownVectorBar", [0x2955]), ("RightFloor", [0x230b]),
  ("RightTee", [0x22a2]), ("RightTeeArrow", [0x21a6]), ("RightTeeVector", [0x295b]),
  ("RightTriangle", [0x22b3]), ("RightTriangleBar", [0x29d0]), ("RightTriangleEqual", [0x22b5]),
  ("RightUpDownVector", [0x294f]), ("RightUpTeeVector", [0x295c]), ("RightUpVector", [0x21be]),
  ("RightUpVectorBar", [0x2954]), ("RightVector", [0x21c0]), ("RightVectorBar", [0x2953]),
  ("Rightarrow", [0x21d2]), ("Ropf", [0x211d]), ("RoundImplies", [0x2970]),
  ("Rrightarrow", [0x21db]), ("Rscr", [0x211b]), ("Rsh", [0x21b1]), ("RuleDelayed", [0x29f4])]

def capitalS : List (String × List Nat) := [
  ("SHCHcy", [0x429]), ("SHcy", [0x428]), ("SOFTcy", [0x42c]), ("Sacute", [0x15a]),
  ("Sc", [0x2abc]), ("Scaron", [0x160]), ("Scedil", [0x15e]), ("Scirc", [0x15c]),
  ("Scy", [0x421]), ("Sfr", [0x1d516]), ("ShortDownArrow", [0x2193]),
  ("ShortLeftArrow", [0x2190]), ("ShortRightArrow", [0x2192]), ("ShortUpArrow", [0x2191]),
  ("Sigma", [0x3a3]), ("SmallCircle", [0x2218]), ("Sopf", [0x1d54a]), ("Sqrt", [0x221a]),
  ("Square", [0x25a1]), ("SquareIntersection", [0x2293]), ("SquareSubset", [0x228f]),
  ("SquareSubsetEqual", [0x2291]), ("SquareSuperset", [0x2290]),
  ("SquareSupersetEqual", [0x2292]), ("SquareUnion", [0x2294]), ("Sscr", [0x1d4ae]),
  ("Star", [0x22c6]), ("Sub", [0x22d0]), ("Subset", [0x22d0]), ("SubsetEqual", [0x2286]),
  ("Succeeds", [0x227b]), ("SucceedsEqual", [0x2ab0]), ("SucceedsSlantEqual", [0x227d]),
  ("SucceedsTilde", [0x227f]), ("SuchThat", [0x220b]), ("Sum", [0x2211]), ("Sup", [0x22d1]),
  ("Superset", [0x2283]), ("SupersetEqual", [0x2287]), ("Supset", [0x22d1])]

def capitalT : List (String × List Nat) := [
  ("THORN", [0xde]), ("TRADE", [0x2122]), ("TSHcy", [0x40b]), ("TScy", [0x426]), ("Tab", [0x9]),
  ("Tau", [0x3a4]), ("Tcaron", [0x164]), ("Tcedil", [0x162]), ("Tcy", [0x422]),
  ("Tfr", [0x1d517]), ("Therefore", [0x2234]), ("Theta", [0x398]),
  ("ThickSpace", [0x205f, 0x200a]), ("ThinSpace", [0x2009]), ("Tilde", [0x223c]),
  ("TildeEqual", [0x2243]), ("TildeFullEqual", [0x2245]), ("TildeTilde", [0x2248]),
  ("Topf", [0x1d54b]), ("TripleDot", [0x20db]), ("Tscr", [0x1d4af]), ("Tstrok", [0x166])]

def capitalU : List (String × List Nat) := [
  ("Uacute", [0xda]), ("Uarr", [0x219f]), ("Uarrocir", [0x2949]), ("Ubrcy", [0x40e]),
  ("Ubreve", [0x16c]), ("Ucirc", [0xdb]), ("Ucy", [0x423]), ("Udblac", [0x170]),
  ("Ufr", [0x1d518]), ("Ugrave", [0xd9]), ("Umacr", [0x16a]), ("UnderBar", [0x5f]),
  ("UnderBrace", [0x23df]), ("UnderBracket", [0x23b5]), ("UnderParenthesis", [0x23dd]),
  ("Union", [0x22c3]), ("UnionPlus", [0x228e]), ("Uogon", [0x172]), ("Uopf", [0x1d54c]),
  ("UpArrow", [0x2191]), ("UpArrowBar", [0x2912]), ("UpArrowDownArrow", [0x21c5]),
  ("UpDownArrow", [0x2195]), ("UpEquilibrium", [0x296e]), ("UpTee", [0x22a5]),
  ("UpTeeArrow", [0x21a5]), ("Uparrow", [0x21d1]), ("Updownarrow", [0x21d5]),
  ("UpperLeftArrow", [0x2196]), ("UpperRightArrow", [0x2197]), ("Upsi", [0x3d2]),
  ("Upsilon", [0x3a5]), ("Uring", [0x16e]), ("Uscr", [0x1d4b0]), ("Utilde", [0x168]),
  ("Uuml", [0xdc])]

def capitalV : List (String × List Nat) := [
  ("VDash", [0x22ab]), ("Vbar", [0x2aeb]), ("Vcy", [0x412]), ("Vdash", [0x22a9]),
  ("Vdashl", [0x2ae6]), ("Vee", [0x22c1]), ("Verbar", [0x2016]), ("Vert", [0x2016]),
  ("VerticalBar", [0x2223]), ("VerticalLine", [0x7c]), ("VerticalSeparator", [0x2758]),
  ("VerticalTilde", [0x2240]), ("VeryThinSpace", [0x200a]), ("Vfr", [0x1d519]),
  ("Vopf", [0x1d54d]), ("Vscr", [0x1d4b1]), ("Vvdash", [0x22aa])]

def capitalW : List (String × List Nat) := [
  ("Wcirc", [0x174]), ("Wedge", [0x22c0]), ("Wfr", [0x1d51a]), ("Wopf", [0x1d54e]),
  ("Wscr", [0x1d4b2])]

def capitalX : List (String × List Nat) := [
  ("Xfr", [0x1d51b]), ("Xi", [0x39e]), ("Xopf", [0x1d54f]), ("Xscr", [0x1d4b3])]

def capitalY : List (String × List Nat) := [
  ("YAcy", [0x42f]), ("YIcy", [0x407]), ("YUcy", [0x42e]), ("Yacute", [0xdd]),
  ("Ycirc", [0x176]), ("Ycy", [0x42b]), ("Yfr", [0x1d51c]), ("Yopf", [0x1d550]),
  ("Yscr", [0x1d4b4]), ("Yuml", [0x178])]

def capitalZ : List (String × List Nat) := [
  ("ZHcy", [0x416]), ("Zacute", [0x179]), ("Zcaron", [0x17d]), ("Zcy", [0x417]),
  ("Zdot", [0x17b]), ("ZeroWidthSpace", [0x200b]), ("Zeta", [0x396]), ("Zfr", [0x2128]),
  ("Zopf", [0x2124]), ("Zscr", [0x1d4b5])]

end Selenese.CharRef
