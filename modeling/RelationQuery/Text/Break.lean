import RelationQuery.Text.Runs

/-!
# Boundaries of graphemes, words and sentences

The properties that the rules for such boundaries speak of.
-/

namespace RelationQuery.Text

/-- A property whose values are letters of a table; each value has names, in small letters. -/
structure EnumeratedProperty where
  values : List (Char × List String)
  table : RunTable Char

def EnumeratedProperty.set? (property : EnumeratedProperty) (name : String) : Option CharSet :=
  (property.values.find? fun value => value.2.contains name).map fun value =>
    property.table.set (· == value.1)

def graphemeBreak : EnumeratedProperty where
  values := [
    ('C', ["control", "cn"]),
    ('R', ["cr"]),
    ('E', ["extend", "ex"]),
    ('L', ["l"]),
    ('N', ["lf"]),
    ('V', ["lv"]),
    ('W', ["lvt"]),
    ('P', ["prepend", "pp"]),
    ('I', ["regionalindicator", "ri"]),
    ('S', ["spacingmark", "sm"]),
    ('T', ["t"]),
    ('U', ["v"]),
    ('Z', ["zwj"])]
  table := .ofLetters [
    "CaNC2RC12X5fC21XdCX252E70X113E7X107E2dXEXE2XE2XEX38P6XaEbXCX2eE15X10EX65E7PXE6X2E2XE4X21PXEX",
    "1eE1bX5bEbX3aE9X9EX18E4XE9XE3XE5X2bE3X34P2X5E9X2aE18PE20SX36ESEXS3E8S4ES2XE7XaE2X1dES2X38EXE",
    "S2E4X2S2X2S2EX9EXaE2X1aEX2E2SX38EXS3E2X4E2X2E3X3EX1eE2X3EXbE2SX38EXS3E5XE2SXS2EX14E2X16E6XES",
    "2X38EXE2SE4X2S2X2S2EX7E3XaE2X1eEX3bESES2X3S3XS3EX9EX28ES3EX37EXE3S4XE3XE4X7E2XbE2X1dES2X38EX",
    "SE2SES2XE3XE4X7E2XbE2XfSXcE2S2X37E2XES2E4XS3XS3EPX8EXaE2X1dES2X46EX4ES2E3XEXS7EX12S2X3dEXSE7",
    "XcE8X62EXSE9XbE7X49E2X1bEXEXEX4S2X31EeSE5XE2X5EbXE24X9EX66E4SE6XE2S2E2X17S2E2X4E3X10E4XdEXSE",
    "2X6EXfEX62L60U48T58X15dE3X3b2E4X1cE3X1dE2X1eE2X40E2SE7S8ES2EbX9EX2dE3CEX75E2X22EX76E3S4E2S3X",
    "4S2ES6E3XdbE2S2EX39SESE7XEXEX2E8S6EaX2EX30E1fX31E4SX2fEaS4E3X26E9XcE2SX1eSE4S2E6X38ESE2S3ESE",
    "5X30S8E8S2E2X98E3XEdSE7X4EX6EX2SE2Xc6E40X20bCEZC2X18C7X31C10X60E21XbfeE3X8dEX60E20X22aE6X69E",
    "2X75d4E4XEaX20E2X50E2X110EX3EX4EX17S2E2SX4EX53S2X32S10E2X1aE12XdEX26E8X19EbSEXcL1dX3E3SX2fES",
    "2E4S2E2S2EX24EX43E6S2E2S2E2XcEX8ESX2eEX33EXE3X2E2X5E2XEX29SE2S2X5SEXecS2ES2ES2XSEX12VW1bVW1b",
    "VW1bVW1bVW1bVW1bVW1bVW1bVW1bVW1bVW1bVW1bVW1bVW1bVW1bVW1bVW1bVW1bVW1bVW1bVW1bVW1bVW1bVW1bVW1b",
    "VW1bVW1bVW1bVW1bVW1bVW1bVW1bVW1bVW1bVW1bVW1bVW1bVW1bVW1bVW1bVW1bVW1bVW1bVW1bVW1bVW1bVW1bVW1b",
    "VW1bVW1bVW1bVW1bVW1bVW1bVW1bVW1bVW1bVW1bVW1bVW1bVW1bVW1bVW1bVW1bVW1bVW1bVW1bVW1bVW1bVW1bVW1b",
    "VW1bVW1bVW1bVW1bVW1bVW1bVW1bVW1bVW1bVW1bVW1bVW1bVW1bVW1bVW1bVW1bVW1bVW1bVW1bVW1bVW1bVW1bVW1b",
    "VW1bVW1bVW1bVW1bVW1bVW1bVW1bVW1bVW1bVW1bVW1bVW1bVW1bVW1bVW1bVW1bVW1bVW1bVW1bVW1bVW1bVW1bVW1b",
    "VW1bVW1bVW1bVW1bVW1bVW1bVW1bVW1bVW1bVW1bVW1bVW1bVW1bVW1bVW1bVW1bVW1bVW1bVW1bVW1bVW1bVW1bVW1b",
    "VW1bVW1bVW1bVW1bVW1bVW1bVW1bVW1bVW1bVW1bVW1bVW1bVW1bVW1bVW1bVW1bVW1bVW1bVW1bVW1bVW1bVW1bVW1b",
    "VW1bVW1bVW1bVW1bVW1bVW1bVW1bVW1bVW1bVW1bVW1bVW1bVW1bVW1bVW1bVW1bVW1bVW1bVW1bVW1bVW1bVW1bVW1b",
    "VW1bVW1bVW1bVW1bVW1bVW1bVW1bVW1bVW1bVW1bVW1bVW1bVW1bVW1bVW1bVW1bVW1bVW1bVW1bVW1bVW1bVW1bVW1b",
    "VW1bVW1bVW1bVW1bVW1bVW1bVW1bVW1bVW1bVW1bVW1bVW1bVW1bVW1bVW1bVW1bVW1bVW1bVW1bVW1bVW1bVW1bVW1b",
    "VW1bVW1bVW1bVW1bVW1bVW1bVW1bVW1bVW1bVW1bVW1bVW1bVW1bVW1bVW1bVW1bVW1bVW1bVW1bVW1bVW1bVW1bVW1b",
    "VW1bVW1bVW1bVW1bVW1bVW1bVW1bVW1bVW1bVW1bVW1bVW1bVW1bVW1bVW1bVW1bVW1bVW1bVW1bVW1bVW1bVW1bVW1b",
    "VW1bVW1bVW1bVW1bVW1bVW1bVW1bVW1bVW1bVW1bVW1bVW1bVW1bVW1bVW1bVW1bVW1bVW1bVW1bVW1bVW1bVW1bVW1b",
    "VW1bVW1bVW1bVW1bVW1bVW1bVW1bVW1bVW1bVW1bVW1bVW1bVW1bVW1bVW1bVW1bVW1bVW1bVW1bVW1bVW1bVW1bVW1b",
    "VW1bVW1bVW1bVW1bVW1bVW1bVW1bVW1bVW1bVW1bVW1bVW1bVW1bVW1bVW1bVW1bVW1bVW1bVW1bVW1bVW1bVW1bVW1b",
    "VW1bVW1bVW1bVW1bVW1bVW1bVW1bVW1bVW1bVW1bVW1bVW1bVW1bVW1bVW1bVW1bVW1bVW1bVW1bVW1bVW1bVW1bVW1b",
    "VW1bVW1bVW1bVW1bVW1bVW1bVW1bVW1bVW1bVW1bVW1bVW1bVW1bVW1bVW1bVW1bVW1bVW1bVW1bVW1bVW1bVW1bVW1b",
    "VW1bVW1bVW1bVW1bVW1bVW1bXcU17X4T31X2322EX2e1E10X10E10XcfCX9eE2X50CcX201EXe2EX95E5X686E3XE2X5",
    "E4X28E3X4EXa5E2X23dE4X41E5X13dE2X4fE4X46EbX31E4X7aSESX35EfX29EX2E2XaE3SX2dS3E4S2E2X2PX4EXaPX",
    "32E3X24E5SE8X10S2X2cEXcE2SX30S3E9SEXP2X5E4XSEX5cS3E3S2E4X6EX2EX9dES3E8X15E2S2X37E2XESES4X2S2",
    "X2S2EX9EXaS2X2E7X3E5X43ES2E6XEX2EXE3SXS2E3PEXeE2X52S3E8S2E3SEX17EX51ES2E6SES2ESE2SE2XebES2E4",
    "X2S4E2SE2X1bE2X52S3E8S2ESE2X6aESES2E8X65ESEX2E4SE5X100S3E9SE2Xf5ES5XS2X2E4PSPSEX8dS3E4X2E2S4",
    "EX3SX1cEaX28E6SPE4X8EX9E6S2E3X28P6EdSE2X195SE7XE6SEX52E16XSE7SE2SE2X7aE6X3EXE2XE7PEX42S5XE2X",
    "S2ESEX15bE2S2X9E2PSX30S2E5X3S2E3X17EX14d5C10EX6EfX2cc8EcS3E3X9c0E5X3bE7X22cUX3U4X1e4EXS37X7E",
    "4X51EXbE2X4cabE2XC4X125cE2eX2E17X21eE5X3E6C8E8X2E7X1eE4X94E3X7bbE37X4E32X8EXeEX16E5XEfX550E7",
    "XE11X2E7XE2XE5X64EXa0E7X177EX3dE4X1fcE4XfeE2X2e0E7X6dE7X89bI1aX1fbE5Xc0c00C20E60C80Ef0Ce10X2",
    "f000"]

def wordBreak : EnumeratedProperty where
  values := [
    ('A', ["aletter", "le"]),
    ('R', ["cr"]),
    ('D', ["doublequote", "dq"]),
    ('E', ["extend"]),
    ('L', ["extendnumlet", "ex"]),
    ('F', ["format", "fo"]),
    ('H', ["hebrewletter", "hl"]),
    ('K', ["katakana", "ka"]),
    ('N', ["lf"]),
    ('M', ["midletter", "ml"]),
    ('P', ["midnum", "mn"]),
    ('B', ["midnumlet", "mb"]),
    ('W', ["newline", "nl"]),
    ('U', ["numeric", "nu"]),
    ('I', ["regionalindicator", "ri"]),
    ('Q', ["singlequote", "sq"]),
    ('S', ["wsegspace"]),
    ('Z', ["zwj"])]
  table := .ofLetters [
    "XaNW2RX12SXDX4QX4PXBXUaMPX5A1aX4LXA1aXaWX24AX2FX7AXMX2AX5A17XA1fXA1e0X6A22E70A5XA2X2A4PAX6AM",
    "A3XAXA14XA53XA8bXE7Aa6XA26X2A4XAMA29PAX6E2dXEXE2XE2XEX8H1bX4H4AMXbF6X6P2X2EbXFX3A2bE15UaXUPX",
    "A2EA63XAE7FXE6A2E2XE4A2UaA3X2AXfFAEA1eE1bX2A59EbAXeUaA21E9A2X2PXAX2EX2A16E4AE9AE3AE5X12A19E3",
    "X4AbX5A18XA6XF2X5E9A2aE18FE21A36E3AE12AE7AaE2X2UaXA10E3XA8X2A2X2A16XA7XAX3A4X2EAE7X2E2X2E3AX",
    "8EX4A2XA3E2X2UaA2XaAXEX2E3XA6X4A2X2A16XA7XA2XA2XA2X2EXE5X4E2X2E3X3EX7A4XAX7UaE2A3EXbE3XA9XA3",
    "XA16XA7XA2XA5X2EAE8XE3XE3X2AXfA2E2X2UaX9AE6XE3XA8X2A2X2A16XA7XA2XA5X2EAE7X2E2X2E3X7E3X4A2XA3",
    "E2X2UaXAX10EAXA6X3A3XA4X3A2XAXA2X3A2X3A3X3AcX4E5X3E3XE4X2AX6EXeUaX10E5A8XA3XA17XA10X2EAE7XE3",
    "XE4X7E2XA3X2AX2A2E2X2UaX10AE3XA8XA3XA17XAaXA5X2EAE7XE3XE4X7E2X6A2XA2E2X2UaXA2EXcE4A9XA3XA29E",
    "2AE7XE3XE4AX5A3EX7A3E2X2UaXaA6XE3XA12X3A18XA9XAX2A7X3EX4E6XEXE8X6UaX2E2X3dEX2E7XcE8XUaX57EX2",
    "E9XbE7XUaX26AX17E2X6UaXbEXEXEX4E2A8XA24X4E14XE2A5EbXE24X9EX64E14XUaXcE4X4E3XE3X2E7X3E4XdEcXE",
    "UaE4X2A26XAX5AX2A2bXA14dXA4X2A7XAXA4X2A29XA4X2A21XA4X2A7XAXA4X2AfXA39XA4X2A43X2E3X20A10X10A5",
    "6X2A6X3A26cX2A11SA1aX5A4bX3AbX7A12E4X9A13E3XbA12E2XcAdXA3XE2X40E20X9EX2UaX21E3FEUaX6A59X7A5E",
    "2A22EAX5A46XaA1fXEcX4EcXaUaX80UaX26A17E5X39EaXE1dX2EUaX6UaX16E1fX31E5A2fE11A8X3UaX11E9XcE3A1",
    "eEdA2UaA2cEeXcA24E14X8UaX3A3UaA24X2AbX5A2bX2A3X10E3XE15A4EA6EA2E3AX5Ac0E40A116X2A6X2A26X2A6X",
    "2A8XAXAXAXA1fX2A35XA7XAX3A3XA7X3A4X2A6X4AdX5A3XA7X3S7XS3XEZF2X8B2XaBX2MW2F5LXfL2X3PXfLXaSF5X",
    "FaXAXdAX10AdX33E21X11AX4AX2AaXAX3A5X6AXAXAXA4XAbX2A4X5A5X4AX11A29X32dA34X716Ae5X6A4E3A2XcA26",
    "XAX5AX2A38X7AXfEA17X9A7XA7XA7XA7XA7XA7XA7XA7XE20X2fAX1d0SX4AX24E6XK5X5A2X5cE2K2X3K5bXK4X5A2b",
    "XA5eX11A20X30K10Xd0K2fXK58X6ca8A48dX43A2eX2A10dX3A10UaA2X14A2fE4XEaXA1fE2A50E2X16Ac6X2A2XAXA",
    "8X15A10EA3EA4EA17E5X4EX13A34XcE2A32E12XaUaX6E12A6X3AXA2EUaA1cE8X2A17EdXcA1dX3E4A2fEeXeAUaXbE",
    "XaUaX6A29EeX9A3EA8E2X2UaX21E3X32EXE3X2E2X5E2XEX1eAbE5X2A3E2XaA6X2A6X2A6X9A7XA7XA3aX6A73E8XE2",
    "X2UaX6A2ba4XcA17X4A31X2304A7XcA5X5HEHaXHdXH5XHXH2XH2XHaA62X21A16bX12A40X2A36X28AcX4E10PX2MPX",
    "bE10X3L2X18L3PXBXPMX1aA5XA87X2FX7BX4PXBXUaMPX5A1aX4LXA1aXbK38E2A1fX3A6X2A6X2A6X2A3X1cF3X4AcX",
    "A1aXA13XA2XAfX2AeX22A7bX45A35X88EX82A1dX3A31XfEX1fA20XdA1eX5A26E5X5A1eX2A24X4A8XA5X2aA9eX2Ua",
    "X6A24X4A24X4A28X8A34XcAbXAfXA7XA2XAbXAfXA7XA2X3A34XcA137X9A16XaA8X18A6XA2aXA9X45A6X2AXA2cXA2",
    "X3AX2A17XaA17X9A1fX41A13XA2XaA16XaA1aX46A38X6A2X40AE3XE2X5E4A4XA3XA1dX2E3X4EX20A1dX3A1dX23A8",
    "XA1cE2X19A36XaA16XaA13XdA12X6eA49X37A33XdA33XdA24E4X8UaX6UaA1cX3E5XA17XfaA2aXE2X3A2X10A3X37E",
    "4A1dXaAX8A16EbX1fA12E4X2aA15X1bA17X9E3A35EfX1fUaEA2E2AX9E4A2dEbX2FX4EXaFX2A19X7UaX6E3A24EeXU",
    "aX4AE2AX8A23EX2AX9E3A30EeA4X4E4XE2UaAXAX23A12XA19EcX6EA2EX3eA7XAXA4XAfXAaX7A2fEcX5UaX6E4XA8X",
    "2A2X2A16XA7XA2XA5XE2AE7X2E2X2E3X2AX6EX5A5E2X2E7X3E5XbAaXAX2AXA26XAE9XEX2EXE4XE5AEAXdE2X1dA35",
    "E12A4X5UaX4EA3X1eA30E14A2XAX8UaXa6A2fE7X2E9X17A4E2X22A30E11X3AXbUaX26A2bEdAX7UaX6U14X39EfX4U",
    "aXc6A2cEfX65A40UaX15A8X2AX2A8XA2XA18E6XE2X2E4AEAE2XcUaX46A8X2A27E7X2E7AXAEX1bAEaA28E7AE4X8EX",
    "8AEbA2eE10X3AX12A49Xc7A21XfUaX6A9XA25E8XE8AXfUaX18A1eX2E16XEeX49A7XA2XA26E6X3EXE2XE7AEX8UaX6",
    "A6XA2XA20E5XE2XE5AX7UaX136A13E4X9E2AEAdXA22E7X3E5XdUaEX55AX4fA39aX66A6fX11Ac4Xa4cA61XfA430F1",
    "0EA6EfXaAf9bX5A247X1ab9A1eE12UaX6c6A239X7A1fXUaX6A4fXUaX6A1eX2E5XbA30E7X9A4XcUaX9A15X5A13X1b",
    "0A2dX3UaXc6A40X80A4bX4EAE37X7E4AdX40A2XAEXbE2X3ffeK4XK7XK2XKX11fK3X32KXeK4Xa98A6bX5AdX3A9X7A",
    "aX3E2XF4X104cUaX206E2eX2E17X21eE5X3E6F8E8X2E7X1eE4X94E3X1bbA55XA47XA2X2AX2A2X2A4XAcXAXA7XA41",
    "XA4X2A8XA7XA1cXA4XA5XAX3A7XA154X2A19XA19XA1fXA19XA1fXA19XA1fXA19XA1fXA19XA8X2U32X200E37X4E32",
    "X8EXeEX16E5XEfX450A1fX6A6Xd5E7XE11X2E7XE2XE5X5A3eX21EX70A2dX3E7A7X2UaX4AX141A1eEX11A2cE4UaX1",
    "d6A1cE4UaXd6A1eE2AUaX1e5A7XA4XA2XAfXAc5XbE7X29A44E7AX4UaX4a6A4XA1bXA2XAX2AXAaXA4XAXAX6AX4AXA",
    "XAXA3XA2XAX2AXAXAXAXAXA2XAX2A4XA7XA4XA4XAXAaXA11X5A3XA5XA11X274A1aX6A1aX6A1aX5cI1aX1fbE5X7f0",
    "UaXc0407FX1eE60X80Ef0X2fe10"]

def sentenceBreak : EnumeratedProperty where
  values := [
    ('A', ["aterm", "at"]),
    ('R', ["cr"]),
    ('C', ["close", "cl"]),
    ('E', ["extend", "ex"]),
    ('F', ["format", "fo"]),
    ('N', ["lf"]),
    ('L', ["lower", "lo"]),
    ('D', ["numeric", "nu"]),
    ('O', ["oletter", "le"]),
    ('M', ["scontinue", "sc"]),
    ('T', ["sterm", "st"]),
    ('P', ["sep", "se"]),
    ('S', ["sp"]),
    ('U', ["upper", "up"])]
  table := .ofLetters [
    "X9SNS2RX12STCX4C3X2M2AXDaM2X3TXU1aCXCX3L1aCXCX7PX1aSX9LCXFX7LX4LCX4U17XU7L18XL8ULULULULULULU",
    "LULULULULULULULULULULULULULULULULULULULULUL2ULULULULULULULUL2ULULULULULULULULULULULULULULULU",
    "LULULULULULULULU2LULUL3U2LULU2LU3L2U4LU2LU3L3U2LU2LULULU2LUL2ULU2LU3LULU2L2OUL3O4U2LU2LU2LUL",
    "ULULULULULULUL2ULULULULULULULULUL2U2LULU3LULULULULULULULULULULULULULULULULULULULULULULULULUL",
    "ULULULUL7U2LU2L2ULU4LULULULUL45OL24O7L2X4OcXeL5X7OXOX11E70ULULOXULX2L4MUX6UXU3XUXU2LU11XU9L2",
    "3UL2U3L3ULULULULULULULULULULULUL5ULXULU2L2U33L30ULULULULULULULULULULULULULULULULULXE7ULULULU",
    "LULULULULULULULULULULULULULULULULULULULULULULULU2LULULULULULUL2ULULULULULULULULULULULULULULU",
    "LULULULULULULULULULULULULULULULULULULULULULULULULULULULULULULULULULXU26X2OX3MX2L29TX7E2dXEXE",
    "2XE2XEX8O1bX4O5XcF6X6M2X2EbXFT3O2bE15DaXD2XO2EO63TOE7FXE6O2E2XE4O2DaO3X2OT3XcFOEO1eE1bX2O59E",
    "bOXeDaO21E9O2X2MTOX2EX2O16E4OE9OE3OE5X9TXTX3T2XO19E3X4ObX5O18XO6XF2X5E9O2aE18FE21O36E3OE12OE",
    "7OaE2T2DaXO10E3XO8X2O2X2O16XO7XOX3O4X2EOE7X2E2X2E3OX8EX4O2XO3E2X2DaO2XaOXEX2E3XO6X4O2X2O16XO",
    "7XO2XO2XO2X2EXE5X4E2X2E3X3EX7O4XOX7DaE2O3EXbE3XO9XO3XO16XO7XO2XO5X2EOE8XE3XE3X2OXfO2E2X2DaX9",
    "OE6XE3XO8X2O2X2O16XO7XO2XO5X2EOE7X2E2X2E3X7E3X4O2XO3E2X2DaXOX10EOXO6X3O3XO4X3O2XOXO2X3O2X3O3",
    "X3OcX4E5X3E3XE4X2OX6EXeDaX10E5O8XO3XO17XO10X2EOE7XE3XE4X7E2XO3X2OX2O2E2X2DaX10OE3XO8XO3XO17X",
    "OaXO5X2EOE7XE3XE4X7E2X6O2XO2E2X2DaXO2EXcE4O9XO3XO29E2OE7XE3XE4OX5O3EX7O3E2X2DaXaO6XE3XO12X3O",
    "18XO9XOX2O7X3EX4E6XEXE8X6DaX2E2XdO30EO2E7X5O7E8XDaX27O2XOXO5XO18XOXOaEO2E9OX2O5XOXE7XDaX2O4X",
    "20OX17E2X6DaXbEXEXEC4E2O8XO24X4E14XE2O5EbXE24X9EX39O2bE14ODaT2X4O6E4O4E3OE3O2E7O3E4OdEcOEDaE",
    "4X2U26XUX5UX2O2bXLO14cXO4X2O7XOXO4X2O29XO4X2O21XO4X2O7XOXO4X2OfXO39XO4X2O43X2E3X2TX4T2X17O10",
    "X10U56X2L6X3O26cXTO11SO1aC2X3O4bX3ObX7O12E4X9O13E3T2X9O12E2XcOdXO3XE2XcO34E20T2XOX4OEX2DaX18",
    "MTX4MTXE3FEDaX6O59X7O5E2O22EOX5O46XaO1fXEcX4EcX8T2DaO1eX2O5XbO2cX4O1aX6DaX26O17E5X4O35EaXE1d",
    "X2EDaX6DaXdOT4X4E1fX31E5O2fE11O8XT2DaT2X2T2XbE9X9T3E3O1eEdO2DaO2cEeXcO24E14X3T2X3DaX3O3DaO24",
    "T2L9ULX5O2bX2O3X10E3XE15O4EO6EO2E3OX5Lc0E40ULULULULULULULULULULULULULULULULULULULULULULULULU",
    "LULULULULULULULULULULULULULULULULULULULULULULULULULULULULULULULULULULULULULULULULULULULULULU",
    "LULULULUL9ULULULULULULULULULULULULULULULULULULULULULULULULULULULULULULULULULULULULULULULULUL",
    "ULULULULULULULUL9U8L6X2U6X2L8U8L8U8L6X2U6X2L8XUXUXUXUL8U8LeX2L8U8L8U8L8U8L5XL2U5XLX3L3XL2U5X",
    "3L4X2L2U4X4L8U5X5L3XL2U5X3SbFE2F2X3M2X3C8X4AX3P2F5SX9C2XT2X7C2T3X15SF5XFaXLXbC2LXdC2XLdX33E2",
    "1X11UX4UX2LU3L2U3LXUX3U5X6UXUXUXU4XLU4LO4LX2L2U2X5UL4X4LX11U10L10O3ULO4X17fC4X1dC2X18bU1aL1a",
    "X271C6X7CeX4fC2X1fCaX193C16X3fC4X20C2X202U30L30ULU3L2ULULULU4LUL2UL8U3LULULULULULULULULULULU",
    "LULULULULULULULULULULULULULULULULULULULULULULULULULULULULULULULULULULULULULUL2X6ULULE3ULX5T3",
    "X4L26XLX5LX2O38X7OXfEO17X9O7XO7XO7XO7XO7XO7XO7XO7XE20CeXeC2X2CaX4TOXcTX5CX10T2C8X1a3SMTX2O3C",
    "aX2C8XC3XO9E6XO5X2O5X4O56X2E2X2O3XO5aXO4X5O2bXO5eX11O20X30O10X200O19c0X40O568dX43O2eXTO10dXT",
    "2O10DaO2X14ULULULULULULULULULULULULULULULULULULULULULULULOE4XEaXOULULULULULULULULULULULULULU",
    "L3E2O50E2XTX3TX1fO9X2ULULULULULULUL3ULULULULULULULULULULULULULULULULULULULULULULULULULULULUL",
    "ULULULaULULU2LULULULULOX2ULULOULUL3ULULULULULULULULULULU5LU5LULULULULULULULU4LULU2LX2ULXLXLU",
    "LULULUX15L3ULOL3O7EO3EO4EO17E5X4EX13O34X2T2X8E2O32E12X8T2DaX6E12O6X3OXO2EDaO1cE8XTO17EdXcO1d",
    "X3E4O2fEeX7T2X5ODaX6O5EOaDaO5XO29EeX9O3EO8E2X2DaX3T3O17X3OE3O32EOE3O2E2O5E2OEOX18O3X2ObE5T2O",
    "3E2XaO6X2O6X2O6X9O7XO7XL2bXLeX6L50O23E8TE2X2DaX6O2ba4XcO17X4O31X2104O16eX2O6aX26L7XcL5X5OEOa",
    "XOdXO5XOXO2XO2XO6cX21O16bC2X10O40X2O36X28OcX4E10M2TM2T2C2X7E10XM2X2C10X2C2X7M2AXM2T2MC6X4MXc",
    "O5XO87X2FXTX6C2X2M2AXDaM2X3TXU1aCXCX3L1aCXCXC2TC2MXO38E2O1fX3O6X2O6X2O6X2O3X1cF3X4OcXO1aXO13",
    "XO2XOfX2OeX22O7bX45O35X88EX82O1dX3O31XfEX1fO20XdO1eX5O26E5X5O1eX2O24X4O8XO5X2aU28L28O4eX2DaX",
    "6U24X4L24X4O28X8O34XcUbXUfXU7XU2XLbXLfXL7XL2X3O34XcO137X9O16XaO8X18LO2L3XL2aXL9X45O6X2OXO2cX",
    "O2X3OX2O17XaO17X9O1fX41O13XO2XaO16XaO1aX46O38X6O2X40OE3XE2X5E4O4XO3XO1dX2E3X4EX16T2X8O1dX3O1",
    "dX23O8XO1cE2X19O36XaO16XaO13XdO12X6eO49X37U33XdL33XdO24E4X8DaX6DaO6U16X3E5XOL16XfaO2aXE2X3O2",
    "X10O3X37E4O1dXaOX8O16EbX4T5X16O12E4T4X26O15X1bO17X9E3O35EfT2X1dDaEO2E2OX9E4O2dEbX2FT4EXaFX2O",
    "19X7DaX6E3O24EeXDaXT3OE2OX8O23EX2OX9E3O30EeO4T2X2E4TE2DaOXOXT2X20O12XO19EcT2XT2XEO2EX3eO7XOX",
    "O4XOfXOaTX6O2fEcX5DaX6E4XO8X2O2X2O16XO7XO2XO5XE2OE7X2E2X2E3X2OX6EX5O5E2X2E7X3E5XbOaXOX2OXO26",
    "XOE9XEX2EXE4XE5OEOT2XbE2X1dO35E12O4T2X3DaX4EO3X1eO30E14O2XOX8DaXa6O2fE7X2E9XT2X5TfO4E2X22O30",
    "E11T2XOXbDaX26O2bEdOX7DaX6D14X1cO1bX2EfX4DaX2T3XO7Xb9O2cEfX65U20L20DaX15O8X2OX2O8XO2XO18E6XE",
    "2X2E4OEOE2TXTX9DaX46O8X2O27E7X2E7OXOEX1bOEaO28E7OE4X3T2X3EX8OEbO2eE10XT2OX12O49Xc7O21XfDaX6O",
    "9XO25E8XE8OT2XdDaX18O1eX2E16XEeX49O7XO2XO26E6X3EXE2XE7OEX8DaX6O6XO2XO20E5XE2XE5OX7DaX136O13E",
    "4T2X7E2OEOdXO22E7X3E5T2XbDaEX55OX4fO39aX66O6fX11Oc4Xa4cO61XfO430F10EO6EfXaOf9bX5O247X1ab9O1e",
    "E12DaX6c6O239X7O1fXDaX4T2O4fXDaX6O1eX2E5TXaO30E7T2X7O4TXbDaX9O15X5O13X1b0O2dXT2DaXc6U20L20X1",
    "8TX67O4bX4EOE37X7E4OdX40O2XOEXbE2XeO17f8X8O4d6X29OaX22e7O4XO7XO2XO123XfOX1dO3X2OXeO4X8O18cX9",
    "04O6bX5OdX3O9X7OaX3E2TF4X104cDaX206E2eX2E17X21eE5X3E6F8E8X2E7X1eE4X94E3X1bbU1aL1aU1aL7XL12U1",
    "aL1aUXU2X2UX2U2X2U4XU8L4XLXL7XLbU1aL1aU2XU4X2U8XU7XL1aU2XU4XU5XUX3U7XL1aU1aL1aU1aL1aU1aL1aU1",
    "aL1aU1aL1aU1aL1cX2U19XL19XL6U19XL19XL6U19XL19XL6U19XL19XL6U19XL19XL6ULX2D32X200E37X4E32X8EXe",
    "EX3TX12E5XEfX450LaOL14X6L6Xd5E7XE11X2E7XE2XE5X5L3eX21EX70O2dX3E7O7X2DaX4OX141O1eEX11O2cE4DaX",
    "1d6O1cE4DaXd6O1eE2ODaX1e5O7XO4XO2XOfXOc5XbE7X29U22L22E7OX4DaX4a6O4XO1bXO2XOX2OXOaXO4XOXOX6OX",
    "4OXOXOXO3XO2XOX2OXOXOXOXOXO2XOX2O4XO7XO4XO4XOXOaXO11X5O3XO5XO11X274U1aX6U1aX6U1aX4ecC3X577Da",
    "X406Oa6e0X20O103aX6OdeX2O1682XeO1d31XfO26eX9a2O21eX5e2O134bX5O1060Xadc51FX1eE60X80Ef0X2fe10"]

end RelationQuery.Text
