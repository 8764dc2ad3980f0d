import Workflow.Document.Value

/-!
# 文書

文書は項目名から値の列への写像である。項目名は前後の空白を落として小文字にしたもの
（`Document.normalize`）で持つので、大文字小文字を問わずに引ける。値の列が空の項目はない。
空の列を入れるとその項目は消える。項目は名前のバイト順に並ぶ。

予約された項目（`$taskid`、`$eventid`、`$modelversion` など）にも、ふつうの操作で触れる。
後続イベントの待ち行列 `$pendingevents` は、正の整数として読める値だけを先頭から順に見る。
-/

namespace Workflow

/-! ## 予約された項目名 -/
namespace ItemName

def uniqueId : String := "$uniqueid"
def workitemId : String := "$workitemid"
def modelVersion : String := "$modelversion"
def taskId : String := "$taskid"
def eventId : String := "$eventid"
def pendingEvents : String := "$pendingevents"
def docType : String := "type"
def transactionId : String := "$transactionid"
def transitionLog : String := "$eventlog"
def transitionLogComment : String := "$eventlogcomment"
def workflowGroup : String := "$workflowgroup"
def workflowStatus : String := "$workflowstatus"
def lastTask : String := "$lasttask"
def lastEvent : String := "$lastevent"
def lastEventDate : String := "$lasteventdate"
def adapterErrorContext : String := "adapter.error_context"
def adapterErrorCode : String := "adapter.error_code"
def adapterErrorParams : String := "adapter.error_params"
def adapterErrorMessage : String := "adapter.error_message"

end ItemName

/-- 文書。項目は正規化した名前の昇順に並び、値の列は空でない。 -/
structure Document where
  /-- 項目名と値の列の組。 -/
  items : List (String × List ItemValue)

namespace Document

/-- 項目名の正規化：前後の空白を落として小文字にする。 -/
def normalize (name : String) : String :=
  Text.toLower (Text.trim name)

/-- 空の文書。 -/
def empty : Document := ⟨[]⟩

/-- 名前順を保って項目を入れる。同じ名前なら置き換える。 -/
def insertEntry (k : String) (vs : List ItemValue) :
    List (String × List ItemValue) → List (String × List ItemValue)
  | [] => [(k, vs)]
  | (k', vs') :: rest =>
    if k < k' then (k, vs) :: (k', vs') :: rest
    else if k = k' then (k, vs) :: rest
    else (k', vs') :: insertEntry k vs rest

/-- 項目を除く。 -/
def eraseEntry (k : String) : List (String × List ItemValue) → List (String × List ItemValue)
  | [] => []
  | (k', vs') :: rest => if k = k' then rest else (k', vs') :: eraseEntry k rest

/-- 正規化済みの名前で値の列を引く。 -/
def lookupEntry (k : String) : List (String × List ItemValue) → Option (List ItemValue)
  | [] => none
  | (k', vs) :: rest => if k = k' then some vs else lookupEntry k rest

/-- 二つの文書が同じ項目と値を持つか。 -/
def same (a b : Document) : Bool :=
  a.items.length == b.items.length &&
    (a.items.zip b.items).all fun ((k, vs), (k', vs')) => k == k' && ItemValue.sameList vs vs'

/-- 項目がないか。 -/
def isEmpty (d : Document) : Bool := d.items.isEmpty

/-- 項目の数。 -/
def size (d : Document) : Nat := d.items.length

/-- 項目があるか。 -/
def hasItem (d : Document) (name : String) : Bool :=
  (lookupEntry (normalize name) d.items).isSome

/-- 項目名の列（昇順）。 -/
def itemNames (d : Document) : List String := d.items.map (·.1)

/-- 項目の値の列。なければ空。 -/
def get (d : Document) (name : String) : List ItemValue :=
  (lookupEntry (normalize name) d.items).getD []

/-- 最初の値。 -/
def first? (d : Document) (name : String) : Option ItemValue :=
  (d.get name).head?

/-- 最初の値の文字表記。なければ空文字列。 -/
def getString (d : Document) (name : String) : String :=
  match d.first? name with
  | some v => v.display
  | none => ""

/-- 最初の値の整数としての値。なければ 0。 -/
def getInt (d : Document) (name : String) : Int :=
  ((d.first? name).bind ItemValue.toInt?).getD 0

/-- 最初の値の double としての値。なければ 0.0。 -/
def getFloat (d : Document) (name : String) : Float :=
  ((d.first? name).bind ItemValue.toFloat?).getD 0.0

/-- 最初の値の真偽値としての値。なければ偽。 -/
def getBool (d : Document) (name : String) : Bool :=
  ((d.first? name).bind ItemValue.toBool?).getD false

/-- 最初の値の時刻としての値。文字列なら RFC 3339 として読む。 -/
def getTime? (d : Document) (name : String) : Option Time.Instant :=
  match d.first? name with
  | some (.time t) => some t
  | some (.text s) => Time.Instant.parseRfc3339 s
  | _ => none

/-- 項目を値の列で置き換える。空の列なら項目を除く。 -/
def setItems (d : Document) (name : String) (vs : List ItemValue) : Document :=
  if vs.isEmpty then ⟨eraseEntry (normalize name) d.items⟩
  else ⟨insertEntry (normalize name) vs d.items⟩

/-- 項目を一つの値で置き換える。 -/
def setItem (d : Document) (name : String) (v : ItemValue) : Document :=
  d.setItems name [v]

/-- 項目の末尾に値を足す。項目がなければ作る。 -/
def appendItem (d : Document) (name : String) (v : ItemValue) : Document :=
  d.setItems name (d.get name ++ [v])

/-- 項目を除き、あった値の列を返す。 -/
def removeItem (d : Document) (name : String) : Option (List ItemValue) × Document :=
  (lookupEntry (normalize name) d.items, ⟨eraseEntry (normalize name) d.items⟩)

/-! ## 予約された項目 -/

/-- 今のタスク。 -/
def taskId (d : Document) : Int := d.getInt ItemName.taskId

/-- タスクを置く。 -/
def setTaskId (d : Document) (t : Int) : Document := d.setItem ItemName.taskId (.int t)

/-- 今のイベント。 -/
def eventId (d : Document) : Int := d.getInt ItemName.eventId

/-- イベントを置く。 -/
def setEventId (d : Document) (e : Int) : Document := d.setItem ItemName.eventId (.int e)

/-- モデルの版。 -/
def modelVersion (d : Document) : String := d.getString ItemName.modelVersion

/-- モデルの版を置く。 -/
def setModelVersion (d : Document) (v : String) : Document :=
  d.setItem ItemName.modelVersion (.text v)

/-- 業務グループ。 -/
def workflowGroup (d : Document) : String := d.getString ItemName.workflowGroup

/-- 文書の識別子。 -/
def uniqueId (d : Document) : String := d.getString ItemName.uniqueId

/-! ## 後続イベントの待ち行列 -/

/-- 待ち行列：`$pendingevents` の値のうち、正の整数として読めるものを順に。 -/
def pendingEvents (d : Document) : List Int :=
  ((d.get ItemName.pendingEvents).filterMap ItemValue.toInt?).filter (· > 0)

/-- 待ち行列の末尾に足す。正でない id は足さない。項目は整数の列に書き直す。 -/
def appendPendingEvent (d : Document) (e : Int) : Document :=
  let q := d.pendingEvents ++ (if e > 0 then [e] else [])
  d.setItems ItemName.pendingEvents (q.map ItemValue.int)

/-- 待ち行列の先頭を取り出す。項目は残りの整数の列に書き直す。 -/
def popPendingEvent (d : Document) : Option Int × Document :=
  match d.pendingEvents with
  | [] => (none, (d.removeItem ItemName.pendingEvents).2)
  | e :: rest => (some e, d.setItems ItemName.pendingEvents (rest.map ItemValue.int))

end Document

end Workflow
