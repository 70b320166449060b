import SeedStream.Unicode.Ranges

/-!
# Ages

The age of a code point is the version of Unicode that assigned it. A code has a
letter for the version and a digit for its revision, `C2` for 3.2, so the order
of codes is that of time. Unassigned code points have the last code.
-/

set_option autoImplicit false

namespace SeedStream.Unicode

def ages : List String :=
  ["A1", "B0", "B1", "C0", "C1", "C2", "D0", "D1", "E0", "E1", "E2", "F0", "F1", "F2", "F3",
    "G0", "H0", "I0", "J0", "K0", "L0", "L1", "M0", "N0", "O0", "O1", "P0"]

/-- Runs of code points from U+0000 on: a length in base 36 and an age each. -/
def ageRuns : List String :=
  ["dyA14C0uA18C01C21D0iC03D0bD1eE02hA15C02D01bA11C0aA15C0hD01yA19C01C28D05D13D02A11C0dC24E12A12E",
    "12Z01A13E01A11G04Z07A11Z01A11Z0kA11Z018A11E17A11C02C21A11C01A11C01A11C01A11C0iA12C11C25D04D11",
    "C0cA11C01uA11C0cA11C015A11E12C02C24C01hA12C22A12C22A12C21E0sA12C08A12D12A16E0gC24E0gE12E22F08",
    "G01Z012A12Z07A11K013A11K01A11C02Z02G01F11Z0hB01D1dB0aA11E09A11B03D18Z0rA14Z01K05A1bZ04D01F11G",
    "05E11D11A19D05E11A11F31N01D11A11F0qA15E1jA13C03D06D11F0eA12C220A12C05A11C0fA11C0uA12D0aA15C01",
    "D0eC01Z0uC03D0rC02Z03D0uD1iE11dC01C2eZ01nE02Z03K01aE22Z0fE21Z0sF02Z01F01Z0bJ05Z0vN01Z02N05Z01",
    "P08N01F11G0bF16G02H01N08I0aM0bN01K0fI01H0rF11G01E23A11D01hA12F0iA11E21F05A11E22F0pA12E15F01G0",
    "2E22E01D12E01G03A11Z08A12Z02A12Z0mA11Z07A11Z01A13Z04A12Z01A11D07A12Z02A12Z03A11D18Z01A14Z02A1",
    "1Z05A12Z0lA11E22J01K02Z01D01A11D01Z06A14Z02A12Z0mA11Z07A11Z02A11Z02A11Z02A12Z01A11Z05A14Z02A1",
    "2Z03A13Z01E17Z04A11Z01A17Z0fA11E11K0aZ03A11Z07A11D01A11Z03A11Z0mA11Z07A11Z02A11Z05A12Z0aA11Z0",
    "3A11Z03A12Z01A1fZ01A13D02Z0aA11F11D07Z01H06J01Z03A11Z08A12Z02A12Z0mA11Z07A11Z02A11Z01D04A12Z0",
    "8A11E12Z02A12Z03A17Z01M02A14Z02A11Z03A12E12Z0bA11D06F0aZ02A11Z06A13Z03A11Z04A13Z02A11Z01A11Z0",
    "2A13Z02A13Z03A13Z08A11D13A14Z05A13Z03A11Z04A12Z01E16Z01A1eZ01D1cA18D05Z01G03A11K08A11Z03A11Z0",
    "nA11Z0aA11G05A12Z01N01E17A11Z03A11Z04A17Z02A11Z02E11H02Z01N02Z02A12E12Z0aA17Z01L08E11I01G02A1",
    "1K08A11Z03A11Z0nA11Z0aA11Z05A12Z02D07A11Z03A11Z04A17Z02A16Z01N01A11Z02A12E02Z0aA11Z02E01O0cZ0",
    "1J01G02A11M08A11Z03A11Z0nA11F0gA11F02J01E16A11E11Z03A11Z04A11F01I04Z03I01A17I01H02A12E12Z0aA1",
    "6E13I07E11Z01M02C01Z0iC03Z0oC01Z09C01Z01C02Z07C03Z01C04Z06C01Z01C01Z08C06Z0aG02Z03C0cZ01mA14Z",
    "0tA111Z02A11Z01A11Z01L02A11L01A11Z01L01A16L04A11L07A11L03A11Z01A11Z01A12L02A11L0dA11L03A12Z05",
    "A11Z01A11Z06A11O01Z0aA12Z02A12F1wZ020B01Z0xB01C02E14Z0rB04F06B01C01B01Z0lB03C07B01C01B03C01Z0",
    "fC01Z01E11C02D13E14E22F011Z0yC01E15C01E12C01E17C03E14C06E1qC01sE14E22E112A11Z01F15Z01F12Z013A",
    "12C22D11A11D13F12iA15E21wA15E22aA16E27C01D11rC01D11C01Z04C02Z07C01Z01C01Z04C02Z013C01D11C01Z0",
    "4C02Z0vC01D11C01Z04C02Z07C01Z01C01Z04C02Z07C01D17C01Z0nC01D1vC01D11C01Z04C02Z07C01D113C01D1jC",
    "02Z02F02D1sC03Z0qD16Z02dC01H02Z06H02Z01E2hiC09E2tC03Z029C08G07Z0dC21N07C21N09Z01N0nC29Z0kC2cZ",
    "0dC21Z03C21Z02C2cZ02lC01D02Z0aC06Z0aD06Z0fC01N0aC06Z02gC01K07Z016C01E15Z01yE2aZ0tD02G01Z0cD04",
    "Z0cD04Z01D03Z016D02Z05D0bZ016D12E24Z0qD16Z0aD11E23Z02D1wD0sD12Z02D11rE21Z0tE22Z0bE26Z0aE26Z0e",
    "E22Z0fG02M0eN01dZ024E01N01Z02P019E02N01P017E13F1cE16F11gF08Z04F01kE13Z0fE13Z01fE19I02P05Z017K",
    "02Z03K08F18Z0zE24F11J02G01L05Z030D02gD17E0sE1fG04J01N01I01F01E22E04bA11B04E12iA16E1mA12Z06A12",
    "Z012A12Z06A12Z08A11Z01A11Z01A11Z01A11Z0vA12Z01hA11Z0fA11Z0eA12Z06A11Z0jA12Z03A11Z09A11Z01bA11",
    "C0nA11C26C05C22D02D11C27D15C21E11Z04F37A11C22Z0rA11Z05D18F03Z0bA11B01B13C02C24D13E21F01F23G01",
    "H01J01N0fZ0iA12C07C21D14E01E1fZ01lA12C01D01D1fC21D12E01E13E21cA11C01E04E11E22H04Z02jA19C0cC26",
    "qA1eC21A11C03dA11C01C2uC01gC22D0bD1cE01E2bF07G04I01J011A12C03P0mZ0bA1lZ03vA1kC21D046A1aC228A1",
    "8C08C2kA12D02C21D11C02eA12C0cC22D1aC28D0bD11E12E22D0gD11E0aE13E24E1aE21F0jE21F01E24F0oE21G04A",
    "11F04A12F0sA11F0zA11F01A11F04A13F01A11E27A12F07A1eC2vA13F0oA11F0eA11F07D14E01F11E11F12F0sC24E",
    "1gC274C0e8C2eD06D17E05E14E015E13G05E15E2qG02Z0wG01Z01M0yG03K0cG01L08G01J0pK04H0fK01L01bD11N01",
    "bD11N0dE03E11E23E14E06E12E22zD17E22F15Z019D11Z01F15Z01F12Z01iD12F17Z01D11F0eZ01F0nD19Z07D11Z0",
    "7D11Z07D11Z07D11Z07D11Z07D11Z07D11Z07D11Z0wE1oD14E12D1jE11E2aF17G02I05J05K01L03M0bN0yZ0qC01Z0",
    "2hC0cZ05yC0qZ0cC04O11kA13C03C21C01A11Z02cA12C22Z06A12C22mA11C25Z014A11E11J01K01Z02mA11Z0gA1oC",
    "03F05M0gD1kE12P09Z01O1gC2tA12D01Z010A1cE21D0fC2sA12D01D11eA1fC2cA14D01bA11L13bA14D02rA12D0vA1",
    "1D052uC0aM01sD0g4mA1mD18E18E21F19H0lJ05K0dM03N0wdC03Z0iC02C2gC01C2cC01C23C01C21C09Z01cE28cE1k",
    "Z0wE12F0iE18F1sE16G01H01F12gE28Z0nD14E05E12E02zE12F01H02F02F1cG0aF01F13G01I01K02G06H02K06L02N",
    "05L04M03P02Z02N01Z01N01Z05N03P0lZ03N02M01G02F11F05E118D11M03Z0aE26Z01kE08Z01xE11I08Z0cE16Z0sE",
    "22H02K02cE1bZ01E1tE23Z026E21Z0bE24Z02E2vG01Z01jE19Z0eE12Z0aE12Z04E1sE24G01vE2oZ05E2nF1aZ06F02",
    "Z06F02Z06F09Z07F01Z07F01Z01cG04H02G02L04M04Z028H01aE22Z0aE26Z08mcB0cZ0nE24Z01dE24Z01kwB0566A1",
    "2F11nC23E22Z02yD112Z07A1cZ05A15Z01C0pA11Z05A11Z01A11Z02A11Z02A11Z030A1gF01N0gZ0a5A1gN01sA12Z0",
    "1iA17Z01N0wC1cA11C21D02N0gC2aD16Z04A13E17G02H0lA12C22D0aA11Z0jA11Z04A14Z03A11C21A11Z03rA12Z01",
    "A11Z02mA12C22mA13Z06A12Z06A12Z06A12Z03A13Z07A11Z07A1aZ03C01B13A1cD01Z0qD01Z0jD01Z02D01Z0fD02Z",
    "0eD0yZ03fD05Z03D04Z019D03Z09D023D12G02I01Z0cE11M03Z01G01bZ01aE13mZ0tE13Z01dE1fZ0sG04Z0vC11G04",
    "C19Z03J0rC15Z017G05Z0uD01Z01D010D14Z0eD116Z012C12D012C128D02Z0aD06Z010I04Z010I04Z014G08Z01gG0",
    "bZ01G0bN01Z0fN01Z07N01Z02N01Z0bN01Z0fN01Z07N01Z02N03Z01gP0cZ08nG09Z0mG0aZ08G0oZ06N01Z016N01Z0",
    "9N01xZ06D02Z01D01Z018D01Z02D03Z01D02Z01D0mE21Z09E21rG08Z09G01cZ0jH01Z02H05Z05H0qE02E23Z01E0qE",
    "15Z01E11sZ01kF14Z02H02F1gH02Z01aH04D11Z02D15Z08D11Z03D11Z0rD12K02Z03D14Z09D11K07Z09D17Z0wE2wG",
    "0wZ013G04Z0cG09Z01iE23Z0tE22Z0rE25Z08E2iG07Z04G0cZ07G028Z021E21jZ01fH0dZ01fH07Z06H014K08Z0aK0",
    "6Z012P03Z0tP08Z02P05sZ0vE21Z016M01Z03M02Z02M0gZ03P01jZ01P03O014K08Z016K0mZ0qN012Z0sM0kZ0nL09Z",
    "026F04Z0uF06N09Z01G01uE21N0aZ01K02Z0pF17Z0aF16Z01hF11Z0eF13K01M08Z013G09Z021F14H01G02M0aF11G0",
    "5H01Z0kG0bZ0iG01Z017G01I03O01qZ07H01Z01H01Z04H01Z0fH01Z0bH06Z01nG05Z0aG06Z01H03G01Z08G02Z02G0",
    "2Z0mG01Z07G01Z02G01Z05G01Z01K09G02Z02G02Z03G02Z01H06Z01G05Z07G02Z07G03Z05G0bZ0aP01Z01P02Z01P0",
    "1Z012P01Z0aP01Z01P02Z01P01Z04P01Z0aP01Z02P08Z02P0tZ02iI01M01I01Z01I01K01L02M0uZ020G08Z0aG04mZ",
    "01iG02Z0iG0kH0yZ01xG0bZ0aG06Z0dI0jZ01kF11L01N06Z0aF16Z0kP0sZ0qH01K02Z0fH04Z0gH07N055Z01oK02sZ",
    "02bG0cZ01G07M02Z01M02Z08M01Z02M01Z0uM01Z02M02Z0cM09Z0aM01yZ08L02Z01aL02Z0bL0rZ020J08Z01gJ02L0",
    "nJ01K05J0dZ0gN01lG07Z0aO052Z0yP0eZ0aP06Z09I01Z019I01Z0eI0aZ0tI03Z0wI02Z0mI01Z0eI021Z07J01Z02J",
    "01Z018J03Z01J01Z02J01Z09J08Z0aJ06Z06K01Z02K01Z011K01Z02K01Z06K07Z0aK08mZ0pK07Z0hO01Z015O03Z0s",
    "O01P02dZ01M0fZ01eL0dZ01L0ofE016G01H02uZ02rE0cG01Z04E01G0bZ05gH0218Z02rN0dZ0trE21O09L0tO0aZ032",
    "zP05Z0g7H05a1Z01mP01c6Z0ftF07Z0vG01Z0aG04Z02G027N01Z0aN06Z0uG02Z06G0aZ01yG0aZ0aG01Z07G01Z0lG0",
    "5Z0jG0c0Z01mP05iZ02jK02tZ01xF16L04Z01L01bF19L07Z0hF11sZ01I01J02L01M0bZ02M0eZ04q5I05K06L08Z0kz",
    "I0dfM015Z01P09M06w7Z04N01Z07N01Z02N01Z02F07xJ04N0fZ01O0tZ03L02Z01O0eZ04L08Z0b0J01s4Z02zG05Z0d",
    "G03Z09G07Z0aG02Z08G0318Z06yP06Z0c4P024Z01aN02Z0nN09Z038N01oZ06uC1aZ013C12Z01E150C1bH02N0lZ01y",
    "D13eZ0kO0cZ0kK0cZ02fD09Z0iE07K03rZ02dC11Z01zC11Z02C12Z01C12Z02C12Z04C11Z0cC11Z01C11Z04C11D02C",
    "11Z01tC11Z04C12Z08C11Z07C11Z0sC11Z04C11Z05C11Z01C13Z07C11Z09eC12D12Z082C12E02Z01eC1i4H0fZ05H0",
    "1Z0fH0uoZ0vN06Z06O05xZ07I01Z0hI02Z07I01Z02I01Z05I05Z01qO0xZ01O034Z019L03Z0eL02Z0aL04Z02L08wZ0",
    "vN0hZ01mL05Z01L0cwZ016O05yZ017P04Z01P0dcZ07N01Z04N01Z02N01Z0fN01Z05hG02Z0gG015Z023I01L04Z0aI0",
    "4Z02I0ltZ01wK024Z01pL05eZ04F11Z0rF11Z02F11Z01F12Z01F11Z0aF11Z04F11Z01F11Z01F16Z01F14Z01F11Z01",
    "F11Z01F11Z03F11Z02F11Z01F12Z01F11Z01F11Z01F11Z01F11Z01F11Z02F11Z01F12Z04F11Z07F11Z04F11Z04F11",
    "Z01F11Z0aF11Z0hF15Z03F11Z05F11Z0hF11gZ02F17iZ018E14Z02sE1cZ0fF02Z0eF01G01Z0fF01Z0fF0mG0aZ0bE2",
    "2G03M0vE21K01F01E2bF01E21F01E22F01E23F01E23F05E28F01E27F01E2aF02F11L03M09F01E21F02E22F01E2aF0",
    "4E22F01E2aF0iI01M01kZ0qF01E22F0dZ0yE29F01I04Z09E27Z02F0eZ06J04aZ0xF0cG03H06F01G01yF01G02H0kF0",
    "cG011F01G05F04G05H0cG0hF07G08H01rF01G01F01G052F01G04F02G01H01qF02G04F17G05H0oF0iG01I015G01I02",
    "eG05F01F1gF01F13F01F11F01F11F01F11F01F13F01F16F02F14F01F11F02F14F01F1cF02G02H0bF01cG01yF0aG01",
    "H02I02J01L02M04Z01O03N0dG03Z04G03I02J01K01L02M03Z038F03O04Z05O02dG04K01O06Z0cL04Z01N0fZ0cG04Z",
    "01kG08Z0aG06Z014G08Z0uG02Z02M0aP04Z02P01qZ0cJ01M03L09H06I01J08I08J01I02J0cI01L0cI01J03K0fI0dJ",
    "05K01L01M04K02M01N01K01L04K05H0dI06J0bK02M06L03M02L0aK06L01H02K08L01M01N03L0nJ0pK02cL0cZ0eK02",
    "Z04L01M03O03L02N03Z03L04M02O01P05Z01P06L0jM04N03O07M04N03O01P01O03M03N01P07Z02O07M03N02O01P02",
    "Z01P08N01O01P06Z07N02O07Z043M01Z01jM011P0aM0skZ02B0wyfC17M02N0wZ0379E24N01O06Z066F02Z04g2H0eZ",
    "05rlJ0fZ0haO11wiZ0f2C115sZ02B03t7M05Z038gO017imZ02B01ekeZ02B01ekeZ02B01ekeZ02B01ekeZ02B01ekeZ",
    "02B01ekeZ02B01ekeZ02B01ekeZ02B01ekeZ02B01ekeZ02B01Z01C1uZ02oC13kZ06oD01e6mZ02t4yB0"]

/-- A version as it is written, and the same as a word. -/
def ageNames (age : String) : List String :=
  match age.toList with
  | [letter, revision] =>
    let version := toString (letter.toNat - 64)
    [version ++ "." ++ String.ofList [revision], "v" ++ version ++ String.ofList [revision]]
  | _ => []

def upToAge (age : String) : List (Nat × Nat) :=
  runsWhere (decodeRuns 2 (String.join ageRuns)) (· ≤ age)

def age? (name : String) : Option (List (Nat × Nat)) :=
  (ages.find? fun age => (ageNames age).contains name).map upToAge

end SeedStream.Unicode
