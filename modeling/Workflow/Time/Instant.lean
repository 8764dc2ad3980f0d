/-!
# 時刻（UTC）

時刻は 1970-01-01T00:00:00Z からの秒 `secs` と、その秒の中のナノ秒 `nanos` で持つ。
閏秒は `nanos ≥ 10^9` で表し、そのとき秒は 59 秒でなければならない。

## 書く

RFC 3339 の形にミリ秒まで書き、`Z` を付ける：`2024-01-01T00:00:00.000Z`。
閏秒は `:60` と書く。年が 0 から 9999 の外なら符号を付けて 4 桁以上で書く。

## 読む

`YYYY-MM-DD` の後に `T`・`t`・空白のどれか、`HH:MM:SS`、任意で `.` と 1 桁以上の小数
（10 桁目以降は捨てる）、最後に `Z`・`z` か `±HH:MM` を置く。月・日・時・分・秒の範囲と、
その月にその日があるかを調べる。秒の 60 は閏秒として受ける。
-/

namespace Workflow.Time

/-- UTC の時刻。 -/
structure Instant where
  /-- 1970 年元日からの秒。 -/
  secs : Int
  /-- 秒の中のナノ秒。閏秒では `10^9` 以上。 -/
  nanos : Nat
  deriving Repr, BEq

/-- 1970 年元日からの日数を年・月・日にする（先発グレゴリオ暦）。`Int` の割り算は床関数である。 -/
def civilOfDays (z : Int) : Int × Nat × Nat :=
  let z := z + 719468
  let era := z / 146097
  let doe := (z - era * 146097).toNat
  let yoe := (doe - doe / 1460 + doe / 36524 - doe / 146096) / 365
  let y : Int := yoe + era * 400
  let doy := doe - (365 * yoe + yoe / 4 - yoe / 100)
  let mp := (5 * doy + 2) / 153
  let d := doy - (153 * mp + 2) / 5 + 1
  let m := if mp < 10 then mp + 3 else mp - 9
  (if m ≤ 2 then y + 1 else y, m, d)

/-- 年・月・日を 1970 年元日からの日数にする。 -/
def daysOfCivil (y : Int) (m d : Nat) : Int :=
  let y := if m ≤ 2 then y - 1 else y
  let era := y / 400
  let yoe := (y - era * 400).toNat
  let mp := if m > 2 then m - 3 else m + 9
  let doy := (153 * mp + 2) / 5 + d - 1
  let doe := yoe * 365 + yoe / 4 - yoe / 100 + doy
  era * 146097 + doe - 719468

/-- 閏年か。 -/
def isLeapYear (y : Int) : Bool :=
  (y % 4 == 0 && y % 100 != 0) || y % 400 == 0

/-- その月の日数。 -/
def daysInMonth (y : Int) (m : Nat) : Nat :=
  if m == 2 then (if isLeapYear y then 29 else 28)
  else if m == 4 || m == 6 || m == 9 || m == 11 then 30
  else 31

/-- 表せる年の範囲。 -/
def minYear : Int := -262144

/-- 表せる年の上限。 -/
def maxYear : Int := 262143

/-- 秒とナノ秒から時刻を作る。日付が範囲外か、ナノ秒が範囲外なら `none`。
ナノ秒が `10^9` 以上なのは 59 秒のときだけ許す。 -/
def Instant.ofParts? (secs : Int) (nanos : Nat) : Option Instant :=
  let days := secs / 86400
  let sod := (secs - days * 86400).toNat
  let (y, _, _) := civilOfDays days
  if nanos ≥ 2000000000 then none
  else if nanos ≥ 1000000000 && sod % 60 != 59 then none
  else if y < minYear || y > maxYear then none
  else some ⟨secs, nanos⟩

/-- `n` を `width` 桁になるまで左に 0 を足して書く。 -/
def padNat (width n : Nat) : String :=
  let s := toString n
  String.ofList (List.replicate (width - s.length) '0') ++ s

/-- 年の書き方。0 から 9999 は 4 桁、それ以外は符号つきで 4 桁以上。 -/
def yearText (y : Int) : String :=
  if 0 ≤ y ∧ y ≤ 9999 then padNat 4 y.toNat
  else (if y < 0 then "-" else "+") ++ padNat 4 y.natAbs

/-- RFC 3339、ミリ秒まで、`Z` 付きの表記。 -/
def Instant.rfc3339 (t : Instant) : String :=
  let days := t.secs / 86400
  let sod := (t.secs - days * 86400).toNat
  let (y, m, d) := civilOfDays days
  let leap := t.nanos ≥ 1000000000
  let sec := if leap then 60 else sod % 60
  let millis := (t.nanos % 1000000000) / 1000000
  yearText y ++ "-" ++ padNat 2 m ++ "-" ++ padNat 2 d ++ "T" ++ padNat 2 (sod / 3600) ++ ":" ++
    padNat 2 (sod / 60 % 60) ++ ":" ++ padNat 2 sec ++ "." ++ padNat 3 millis ++ "Z"

/-! ## 読む -/

/-- ちょうど `n` 桁の数字を読む。 -/
def takeDigits (n : Nat) (cs : List Char) : Option (Nat × List Char) :=
  let ds := cs.take n
  if ds.length == n && ds.all Char.isDigit then
    some (ds.foldl (fun a c => a * 10 + (c.toNat - 48)) 0, cs.drop n)
  else none

/-- 決まった 1 文字を読む。 -/
def expectChar (c : Char) : List Char → Option (List Char)
  | x :: r => if x = c then some r else none
  | [] => none

/-- 小数部を読んでナノ秒にする。10 桁目以降の数字は捨てる。 -/
def takeFraction (cs : List Char) : Option (Nat × List Char) :=
  let ds := cs.takeWhile Char.isDigit
  if ds.isEmpty then none
  else
    let used := ds.take 9
    let v := used.foldl (fun a c => a * 10 + (c.toNat - 48)) 0
    some (v * Nat.pow 10 (9 - used.length), cs.drop ds.length)

/-- 時差を秒で読む。 -/
def takeOffset (cs : List Char) : Option (Int × List Char) :=
  match cs with
  | 'Z' :: r | 'z' :: r => some (0, r)
  | c :: r =>
    if c = '+' ∨ c = '-' ∨ c = '−' then do
      let (h, r) ← takeDigits 2 r
      let r ← expectChar ':' r
      let (mi, r) ← takeDigits 2 r
      if mi ≥ 60 then none
      else
        let off : Int := h * 3600 + mi * 60
        some (if c = '+' then off else -off, r)
    else none
  | [] => none

/-- RFC 3339 の時刻を読む。 -/
def Instant.parseRfc3339 (s : String) : Option Instant := do
  let cs := s.toList
  let (y, cs) ← takeDigits 4 cs
  let cs ← expectChar '-' cs
  let (mo, cs) ← takeDigits 2 cs
  let cs ← expectChar '-' cs
  let (d, cs) ← takeDigits 2 cs
  let cs ← match cs with
    | c :: r => if c = 'T' ∨ c = 't' ∨ c = ' ' then some r else none
    | [] => none
  let (h, cs) ← takeDigits 2 cs
  let cs ← expectChar ':' cs
  let (mi, cs) ← takeDigits 2 cs
  let cs ← expectChar ':' cs
  let (sec, cs) ← takeDigits 2 cs
  let (nano, cs) ← match cs with
    | '.' :: r => takeFraction r
    | _ => some (0, cs)
  let (off, cs) ← takeOffset cs
  if !cs.isEmpty then none
  else if off.natAbs > (23 * 60 + 59) * 60 then none
  else if mo < 1 || mo > 12 || d < 1 || d > 31 || h > 23 || mi > 59 || sec > 60 then none
  else if d > daysInMonth y mo then none
  else
    let (sec, nano) := if sec == 60 then (59, nano + 1000000000) else (sec, nano)
    let secs : Int := daysOfCivil y mo d * 86400 + h * 3600 + mi * 60 + sec - off
    some ⟨secs, nano⟩

end Workflow.Time
