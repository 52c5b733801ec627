import RelationQuery.Text.Runs

/-!
# Ages

The property Age: the version of the standard in which a character was assigned.
-/

namespace RelationQuery.Text.Age

/-- The versions from the first on, with the letters that stand for them in the table. -/
def versions : List (Char × String) :=
  [('A', "1.1"), ('B', "2.0"), ('C', "2.1"), ('D', "3.0"), ('E', "3.1"), ('F', "3.2"),
   ('G', "4.0"), ('H', "4.1"), ('I', "5.0"), ('J', "5.1"), ('K', "5.2"), ('L', "6.0"),
   ('M', "6.1"), ('N', "6.2"), ('O', "6.3"), ('P', "7.0"), ('Q', "8.0"), ('R', "9.0"),
   ('S', "10.0"), ('T', "11.0"), ('U', "12.0"), ('V', "12.1"), ('W', "13.0"), ('X', "14.0"),
   ('Y', "15.0"), ('Z', "15.1"), ('g', "16.0")]

def table : RunTable Char := .ofLetters [
  "A1f6D4A1eD8FGD12G3HbIeA59D5G2A2fDAaD5G11A46D9FG8H5G3A2DFdJ4A2J2z2AI3APz4A7zAzA14zA2cJA7DF2ADAD",
  "ADADA12E2FG5H4DAcDA42DAcDA29JD2F2D4A35F2A2F2A2F2IA1cD2A8H2A2I6F10I4J10K2L2P8zA26z2A7TA27TADz2P",
  "2MzB11HBdAaIA9BH3z8A1bz4TA5zbG4MPJ5HAG9J5AOXHALA1aJ5A13D3G3H6LAeF2A48D2A5DAfDA1eG2AaD5GDezD1eG",
  "3D1bz2G3H1eJ12D31FzeI3bz2T3K2ez2KfzL1cz2LzSbz5X1fzX2z5gX8MPMbP6Q2XR8WaXbTRfQM1bPKA3GA35L2A12KL",
  "A5KL2A19J2L5PK2I2HI2PA3zA8z2A2z2A16zA7zAz3A4z2AGA7z2A2z2A3Hz8Az4A2zA5z2A15KS2Tz2GAGzA6z4A2z2A1",
  "6zA7zA2zA2zA2z2AzA5z4A2z2A3z3Jz7A4zAz7AfJTzaA3zA7GAzA3zA16zA7zA2zA5z2AazA3zA3z2AzfAG3z2AaMGz7Q",
  "S6zA3zA8z2A2z2A16zA7zA2zGA4z2A8Jz2A2z2A3z7WA2z4A2zA3J2z2AbGL6zaA2zA6z3A3zA4z3A2zAzA2z3A2z3A3z3",
  "A8HA3z4A5z3A3zA4z2Jz6AzeHAcG8z5PA3TA8zA3zA17zAaPA5z2XJA7zA3zA4z7A2zJ2Qz2Xz2A2J2z2Aaz7UJ8RPA2TA",
  "8zA3zA17zAazA5z2G2A7zA3zA4z7A2z6XAzA2I2z2AazI2YzcSPA2WA8zA3zA17LA10LS2JA6JzA3zA4LRz4R3AR7QA2J2",
  "z2AaJ6R3J7zWD2zD12z3D18zD9zDz2D7z3Dz4D6zDzD8z6Paz2D3zcA3az4A1dz25A2zAzUA2UAzUAU6A4UA7UA3zAzAU2",
  "A2UAdUA3z2A5zAzA6YzAaz2A2M2z20B48zB21DJ2z4B1bL4B6DBzB15D3B7DBD3zDfzJDH2J3K4L2z25D22JD5JD2JD7J3",
  "D4J6D1aJ40K4J2A26zMz5Mz2A27F2H2AHM3A5aK5A44K5A52K6D7HD3fHDzD4z2D7zDzD4z2D27HDzD4z2D1fHDzD4z2D7",
  "zDzD4z2D7HD7zD17HD1fHDzD4z2D7HD27HD13z2L2H2D1cz3H1az6D55Qz2Q6z2KD276K9D1dz3D51P8z7FdXF7Xz9XF17",
  "z9F14zcFdzF3zF2zcD5dGz2Daz6Gaz6DfXDaz6D58Tz7D2aJz5K46zaG1dP2zGcz4Gcz4Gz3G2az2G5zbH2aK2z4H1az6H",
  "aKz3H2G20H1cz2H2K3fzK1dz2Kbz6Kaz6Kez2PfW2Xez31I4cXzg2I2dX2gJ2bM3JcM6L34z8L4J38z3Jfz3J33R9g2z5T",
  "2bz2T3M8z8K23M4SP2Uz5G6cH58I7J1cPfS4XRLKI2A9bBJ4A5aJ6A16z2A6z2A26z2A6z2A8zAzAzAzA1fz2A35zAfzAe",
  "z2A6zA13z2A3zA9zA2fDA17FD6F5G2H2FH7F5JzO4A7Fz2A1bzH5L8z3AbBCD3F2H4K3LNP3QSXzfA12D2F7HI4JzfA39D",
  "2GHFfHI2JK3A30DIJ4KQ2z4A5bD9FcAf2FeADA79DFD1eF34G2HbIcKLbP7R4SA25D2g3z16Abz15A8bF14GA96FaA50D8",
  "F8A14G2F2HDA56D2FcH2FaG8HbJK2G2H10IJaK3J4KaLK13LKL4K18PA4LA4L2A1cLA23LALA4L3AKA7L2A7FeA1fL3A18",
  "LAeLH7I4MJML2F1cJ4F10D100F200GeH6I7J5I4J29P3J5K5P1az2P20zWP22T3PcUP8ST19Q4TfUH2fXH2fXIdJ3KJ3I4",
  "J6K2H6bK7M2z5H2dzMz5Mz2H36M2z7HLzeLH17z9H7zH7zH7zH7zH7zH7zH7zH7zJ20H18J4H2J13KMaP7R2S5T5UW3Xbz",
  "22D1azD59zcDd6z1aDcZ4A38D3F3DAzA54F2z2A6F2A5eFz5A28JSTzA5ezA10D18L3W5H10J14g2z9ZF10A1dG2zA24Kc",
  "GFfA1cG2HA32FfAcG4A2fVA77G4A63G2A1fGD19b6WaG40A51a6H16J8K8MQ9S15T5WdX3D48dz3D12F2D10FDcFD3FDz9",
  "K30J12cz14J20L2J12M8J1cP6QMK58z8H17I4J5I2J6bL2QL2M2PcLaMP3RTP2Q6T2U6X2U5W4g3z2X2zXzX5g3z15X3W2",
  "PM2LJ5H2cWz3Kaz6I38z8J45Rz8Jcz6K1cQ2T2J54zbJK1dz3K4ezKbz4K2P1fzJ37z9Jez2Jaz2J4K1cP4K43z18K5M17",
  "zaL6z2L6z2L6z9L7zL7zP30Q4P2U2W4z4Q50K2ez2Kaz6B2ba4zcK17z4K31z4B800A1a2eM2F3bK3z2H6az26A7zcA5z5",
  "DA19zA5zAzA2zA2zA6cL10Xz10A16dX10A40z2A36z7XE20AcFGX2F10Haz6A4J3P7Q2A15F2G2AazA13zA4z4A3FAzA87",
  "z2AzA5eF2A5ez3A6z2A6z2A6z2A3z3A7zA7zaD3CA3GczG1azG13zG2zGfz2Gez22G7bz5G3z4G2dz3G9H4bP2R2zJcWz3",
  "Pz2fJ2ez82J1dz3J31zfP1cz4E1fPE4z9S3E1bz5P2bz5G1ezGH24z4Hez2aE26G2E26G50z2Gaz6R24z4R24z4P28z8P3",
  "4zbPXbzXfzX7zX2zXbzXfzX7zX2z3g34zcP137z9P16zaP8z18X6zX2azX9z45G6z2GzG2czG2z3Gz2GK16zK9P3fz8P9z",
  "30Q13zQ2z5Q5I1aK2z3IJ1az5Jz40M38z4Q2M2Q10z2Q2eH4zH2z5H8zH3zH1bT2z2H3z4H9Tz7H9z7K20P20z20P27z4P",
  "cz9K36z3K1dz2K1bz5K8P12z7P4zcP7z50K49z37Q33zdQ33z7Q6T28z8Taz6g26z3g1dz8g2zd0K1fzW2azW3z2W2z10g",
  "3z37gY3T28z8T2az16X1az26W1cz14U17z9L4ez4L1eX6z9PK42XzaTz2M19z7Maz6M35zMeT3Wz8P27z9M49Q4PW2MaPQ",
  "5zP14zbP12zP2bRY3z3eQ7zQzQ4zQfzQbz6P3bz5Paz6QP3zP8z2P2z2P16zP7zP2zP5zTP9z2P2z2P3z2Qz6Pz5P7z2P7",
  "z3P5zbgazgz2gzg26zgazgz2gzg4zgazg2z8g2z1dR5aWRzRTUW2z1eP48z8Paza6P36z2P12Q14z22P45zbPaz6Rdz13M",
  "38UXz6Maz6g14z1cQ1aTz2Qfz4Q10X7zb9T3cz64P53zcPW7z2Wz2W8zW2zW1ezW2z2Wcz9Waz46U8z2U2ez2Ubz1bS48z",
  "8S34U2S17TS5zdX10P39z7Yazb6g22zegaz6R9zR2dzRezaR1dz3R20z2R16zRez49S7zS2zS2cz3SzS2zS9z8Saz6T6zT",
  "2zT25zT2zT6z7Taz136T19z7Y11zY29z3Y1cgz55WzfU32zdUI36fP2aQz66I63PczI4PzbQc4za4cX63zdK42fYU9Y1dz",
  "agf9bz5Q247z1ab9g3az6c6L239z7P1fzPaz4P2X4fzXaz6P1ez2P6zaP46zaPazP7zP15z5P13z1b0g3azc6T5bz65M45",
  "U6z4UM2fU9z7M11z40RSU2WzbW2zeR17edT5U6z8R2f3W1e3z29gW9z22e7X4zX7zX2zL2S11dX4zfYz1dU3z2YzeU4z8S",
  "18cz904P6bz5Pdz3P9z7Paz2P8zf5cgfaz6g1b4z4cX2ez2X17z9X74z3cEf6zaE27z2JEb4QbX2z15H46z7aY14zcT14z",
  "cG57z9I12T7z87E55zE47zE2z2Ez2E2z2E4zEczEzE4GE2zE41zE4z2E8zE7zE1czE4zE5zEz3E7zE152H2z2E122I2z2E",
  "32Q28czfQ5zQfz450X1fz6Y6zd5R7zR11z2R7zR2zR5z5Y3ez21Yz70U2dz3Uez2Uaz4U2z140X1fz11U3az5Uz1d0Y2az",
  "d6g2bz4gz1e0X7zX4zX2zXfzPc5z2P10z29R4bUz4Raz4R2z311T44z4cU3dzc2M4zM1bzM2zMz2MzMazM4zMzMz6Mz4Mz",
  "MzMzM3zM2zMz2MzMzMzMzMzM2zMz2M4zM7zM4zM4zMzMazM11z5M3zM5zM11z34M2z10eJ2cz4J64zcLfz2LePzLfzLfP1",
  "6zaKbP2W3K1fTLKLbKLKL2KL3KL3K5L8KL7KLaM2UW3L9KLK2L2KLaK4L2KLaR12Wz38L1aKL2zdK22L9Rz4K9z7L2zeS6",
  "z9aL21PcQ3L6PL46PQ2L14PcL25PL5P4Q5PcL11P7Q8L3fPLPLb6PL4P2QL3eP2M4P7Q5L18P12RP29RP56L5ML10ML3ML",
  "MLMLML3ML6M2L4MLM2L4MLcP2Q2LbP30L46PaQR2S2UW2z4YX3Pdz3P4R3S2TUW2z3L74Y3z4Y5P55T4Yz6Ucz4XzfPcz4",
  "P38z8Paz6P28z8P1ez2W2gaz4g2z3eScWU3Q9R6SR8S8RS2RcURcST3RfSdT5UWT4W2XTUT4Q5RdS6TbW2U6W3U2TaU6QT",
  "2U8WXU3S17T19U54zcTez2U4WY3U3X2z3U3W4Y2gz5gU6W13X4Y3W7X4Y3gYW3X3gz7Y2W7X3Y2gz2gX8Ygz6X7Y2z7W93",
  "zW37g25Waz404B2Ea6d7W7X2z20K1035X4Yz6Ldez2Q1682zeS1d31zfZ26ez9a2E21ez5e0B2W134bz5Y1060zdc4eB2z",
  "fffeB2zfffeB2zfffeB2zfffeB2zfffeB2zfffeB2zfffeB2zfffeB2zfffeB2zfffeB2zEz1eE60z80Gf0zfe0eB20002"]

/-- The letters of all versions up to one; it is named with a point, or without it behind a `v`. -/
def lettersUpTo? (name : String) : Option (List Char) := do
  let isNamed (version : Char × String) : Bool :=
    version.2 == name || 'v' :: version.2.toList.filter (· != '.') == name.toList
  if versions.any isNamed then
    let earlier := versions.takeWhile fun version => !isNamed version
    some ((versions.take (earlier.length + 1)).map (·.1))
  else none

def set? (name : String) : Option CharSet :=
  (lettersUpTo? name).map fun letters => table.set letters.contains

end RelationQuery.Text.Age
