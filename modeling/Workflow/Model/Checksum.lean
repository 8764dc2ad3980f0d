/-!
# CRC-32C（Castagnoli）

生成多項式 `0x1EDC6F41`（ビット反転して `0x82F63B78`）の CRC-32。初期値と最終の排他的論理和は
`0xFFFFFFFF`。モデル定義の直列化したバイト列の指紋に使う。

1 ビットずつ割る素直な形で書く：バイトを下位ビットに足し、8 回、最下位ビットが 1 なら
右シフトして多項式を足し、0 なら右シフトだけする。
-/

namespace Workflow.Model

/-- ビット反転した生成多項式。 -/
def castagnoli : UInt32 := 0x82F63B78

/-- 1 ビット分の割り算。 -/
def crcBit (crc : UInt32) : UInt32 :=
  if crc &&& 1 == 1 then (crc >>> 1) ^^^ castagnoli else crc >>> 1

/-- 1 バイト分。 -/
def crcByte (crc : UInt32) (b : UInt8) : UInt32 :=
  let c := crc ^^^ b.toUInt32
  crcBit (crcBit (crcBit (crcBit (crcBit (crcBit (crcBit (crcBit c)))))))

/-- バイト列の CRC-32C。 -/
def crc32c (bytes : List UInt8) : UInt32 :=
  (bytes.foldl crcByte 0xFFFFFFFF) ^^^ 0xFFFFFFFF

/-- 8 桁の小文字 16 進。 -/
def hex8 (x : UInt32) : String :=
  let digits := Nat.toDigits 16 x.toNat
  String.ofList (List.replicate (8 - digits.length) '0' ++ digits)

/-- 標準の検査値：`"123456789"` の CRC-32C は `0xE3069283`。 -/
example : crc32c [0x31, 0x32, 0x33, 0x34, 0x35, 0x36, 0x37, 0x38, 0x39] = 0xE3069283 := by
  decide +kernel

end Workflow.Model
