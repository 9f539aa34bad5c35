import Billboard.Library.Sql.Template
import Billboard.Protocol.Payload

/-!
# The statement texts of the server

`Server.main` builds its statements by string concatenation.  Each text is written here as the
source concatenates it, next to the statement it is meant to be, and read by the lexical rules of
the database.

**`sqlTexts_read_iff`**: the texts of a request are exactly the intended statements if and only if
every text field of the request is self-reading, that is, holds no single quote and no backslash
except directly before `%` or `_`.
-/

namespace Billboard

open Java Sql

/-! ## The texts as concatenated -/

/-- Case `addBillboard`, first statement. -/
def insertBillboardSql (data : Fin 4 → JObject) : Text :=
  "insert into billboard values(null,'".toList ++ (data 0).text ++ "','".toList ++ (data 1).text
    ++ "','".toList ++ (data 2).text ++ "','".toList ++ (data 3).text ++ "');".toList

/-- Case `addBillboard`, second statement. -/
def insertViewSql (data : Fin 4 → JObject) : Text :=
  "insert into view (BillboardName, message, info, url) values('".toList ++ (data 0).text
    ++ "','".toList ++ (data 1).text ++ "','".toList ++ (data 2).text ++ "','".toList
    ++ (data 3).text ++ "');".toList

/-- Case `addView`. -/
def updateScheduleSql (data : Fin 4 → JObject) : Text :=
  "update view set scheduleddate='".toList ++ (data 1).text ++ "', starttime='".toList
    ++ (data 2).text ++ "', endtime='".toList ++ (data 3).text ++ "'Where billboardId='".toList
    ++ (data 0).text ++ "'".toList

/-- Case `showTable`. -/
def selectViewSql : Text :=
  "SELECT * FROM view".toList

/-- Case `delete`. -/
def deleteSql (data : Fin 1 → JObject) : Text :=
  "delete from view where billboardID=(".toList ++ (data 0).text ++ ");".toList

/-- Case `editTable`. -/
def updateBillboardSql (data : Fin 5 → JObject) : Text :=
  "update billboard set BillboardName='".toList ++ (data 1).text ++ "', message='".toList
    ++ (data 2).text ++ "',info='".toList ++ (data 3).text ++ "',url='".toList ++ (data 4).text
    ++ "' where billboardID='".toList ++ (data 0).text ++ "';".toList

/-- The statement texts of a request, in the order in which they are executed. -/
def sqlTexts : Request → List Text
  | .addBillboard o2 => [insertBillboardSql o2.getVal, insertViewSql o2.getVal]
  | .addView o3 => [updateScheduleSql o3.getVal]
  | .showTable => [selectViewSql]
  | .delete deleteData => [deleteSql deleteData.getVal]
  | .editTable editData => [updateBillboardSql editData.getVal]

/-! ## The statements they are meant to be -/

def insertBillboardStmt (a : Add) : Stmt :=
  .insert (name "billboard") none
    [.null, .text a.query1, .text a.query2, .text a.query3, .text a.query4]

def insertViewStmt (a : Add) : Stmt :=
  .insert (name "view")
    (some [name "billboardname", name "message", name "info", name "url"])
    [.text a.query1, .text a.query2, .text a.query3, .text a.query4]

def updateScheduleStmt (a : Add) : Stmt :=
  .update (name "view")
    [(name "scheduleddate", .text a.query2), (name "starttime", .text a.query3),
      (name "endtime", .text a.query4)]
    (name "billboardid") (.bare (.text a.query1))

def selectViewStmt : Stmt :=
  .selectAll (name "view")

def deleteStmt (d : Delete) : Stmt :=
  .delete (name "view") (name "billboardid") (.parens (.number d.billboardID.toInt))

def updateBillboardStmt (e : Edit) : Stmt :=
  .update (name "billboard")
    [(name "billboardname", .text e.query1), (name "message", .text e.query2),
      (name "info", .text e.query3), (name "url", .text e.query4)]
    (name "billboardid") (.bare (.text (decimal e.id)))

/-- The statements a request stands for. -/
def intended : Request → List Stmt
  | .addBillboard o2 => [insertBillboardStmt o2, insertViewStmt o2]
  | .addView o3 => [updateScheduleStmt o3]
  | .showTable => [selectViewStmt]
  | .delete deleteData => [deleteStmt deleteData]
  | .editTable editData => [updateBillboardStmt editData]

/-! ## The fixed text between the fields -/

/-- Fixed text and its tokens. -/
def glue (s : String) (tokens : List Token)
    (reads : scan .code s.toList = ⟨tokens, .code⟩)
    (head : s.toList.head? ≠ some '\'' ∧ s.toList.head? ≠ some '\\') : Glue :=
  ⟨s.toList, tokens, reads, head.1, head.2⟩

def commaGlue : Glue := glue "," [comma] (by decide +kernel) (by decide)
def closeGlue : Glue := glue ");" [closing, semicolon] (by decide +kernel) (by decide)
def endGlue : Glue := glue "" [] (by decide +kernel) (by decide)
def semicolonGlue : Glue := glue ";" [semicolon] (by decide +kernel) (by decide)
def starttimeGlue : Glue :=
  glue ", starttime=" [comma, kw "starttime", equals] (by decide +kernel) (by decide)
def endtimeGlue : Glue :=
  glue ", endtime=" [comma, kw "endtime", equals] (by decide +kernel) (by decide)
def whereIdGlue : Glue :=
  glue "Where billboardId=" [kw "where", kw "billboardid", equals] (by decide +kernel) (by decide)
def messageGlue : Glue :=
  glue ", message=" [comma, kw "message", equals] (by decide +kernel) (by decide)
def infoGlue : Glue := glue ",info=" [comma, kw "info", equals] (by decide +kernel) (by decide)
def urlGlue : Glue := glue ",url=" [comma, kw "url", equals] (by decide +kernel) (by decide)
def whereIDGlue : Glue :=
  glue " where billboardID=" [kw "where", kw "billboardid", equals] (by decide +kernel) (by decide)

/-! ## Reading the texts

Each text is the fixed text before its first field followed by its literals, so it reads as
intended exactly under the condition of `reads_fill_iff`.
-/

open List (append_assoc cons_append nil_append append_nil)

lemma comma_text : "','".toList = '\'' :: (",".toList ++ ['\'']) := by decide +kernel

lemma close_text : "');".toList = '\'' :: ");".toList := by decide +kernel

lemma insertBillboard_reads_iff (a : Add) :
    Reads (insertBillboardSql a.getVal) (insertBillboardStmt a)
      ↔ ∀ f ∈ (Request.addBillboard a).texts, selfReading f := by
  have start : "insert into billboard values(null,'".toList
      = "insert into billboard values(null,".toList ++ ['\''] := by decide +kernel
  have text : insertBillboardSql a.getVal
      = "insert into billboard values(null,".toList ++ literals
        [(a.query1, commaGlue), (a.query2, commaGlue), (a.query3, commaGlue),
          (a.query4, closeGlue)] := by
    unfold insertBillboardSql
    rw [start, comma_text, close_text]
    simp only [literals, append_assoc, cons_append, nil_append, append_nil]
    rfl
  rw [text, reads_fill_iff [kw "insert", kw "into", kw "billboard", kw "values",
    opening, kw "null", comma] (by decide +kernel) (by simp [Separated, commaGlue, glue])
    (by simp) rfl]
  simp [Request.texts]

lemma insertView_reads_iff (a : Add) :
    Reads (insertViewSql a.getVal) (insertViewStmt a)
      ↔ ∀ f ∈ (Request.addBillboard a).texts, selfReading f := by
  have start : "insert into view (BillboardName, message, info, url) values('".toList
      = "insert into view (BillboardName, message, info, url) values(".toList ++ ['\''] := by
    decide +kernel
  have text : insertViewSql a.getVal
      = "insert into view (BillboardName, message, info, url) values(".toList ++ literals
        [(a.query1, commaGlue), (a.query2, commaGlue), (a.query3, commaGlue),
          (a.query4, closeGlue)] := by
    unfold insertViewSql
    rw [start, comma_text, close_text]
    simp only [literals, append_assoc, cons_append, nil_append, append_nil]
    rfl
  rw [text, reads_fill_iff [kw "insert", kw "into", kw "view", opening,
    kw "billboardname", comma, kw "message", comma, kw "info", comma, kw "url", closing,
    kw "values", opening] (by decide +kernel) (by simp [Separated, commaGlue, glue])
    (by simp) rfl]
  simp [Request.texts]

lemma updateSchedule_reads_iff (a : Add) :
    Reads (updateScheduleSql a.getVal) (updateScheduleStmt a)
      ↔ ∀ f ∈ (Request.addView a).texts, selfReading f := by
  have start : "update view set scheduleddate='".toList
      = "update view set scheduleddate=".toList ++ ['\''] := by decide +kernel
  have start' : "', starttime='".toList = '\'' :: (", starttime=".toList ++ ['\'']) := by
    decide +kernel
  have end' : "', endtime='".toList = '\'' :: (", endtime=".toList ++ ['\'']) := by
    decide +kernel
  have where' : "'Where billboardId='".toList
      = '\'' :: ("Where billboardId=".toList ++ ['\'']) := by decide +kernel
  have stop : "'".toList = ['\''] := by decide
  have text : updateScheduleSql a.getVal
      = "update view set scheduleddate=".toList ++ literals
        [(a.query2, starttimeGlue), (a.query3, endtimeGlue), (a.query4, whereIdGlue),
          (a.query1, endGlue)] := by
    unfold updateScheduleSql
    rw [start, start', end', where', stop]
    simp only [literals, append_assoc, cons_append, nil_append, append_nil]
    rfl
  rw [text, reads_fill_iff [kw "update", kw "view", kw "set", kw "scheduleddate",
    equals] (by decide +kernel)
    (by simp [Separated, starttimeGlue, endtimeGlue, whereIdGlue, glue]) (by simp) rfl]
  simp only [Request.texts, List.forall_mem_cons, List.not_mem_nil, false_implies, implies_true]
  tauto

lemma updateBillboard_reads_iff (e : Edit) :
    Reads (updateBillboardSql e.getVal) (updateBillboardStmt e)
      ↔ ∀ f ∈ (Request.editTable e).texts, selfReading f := by
  have start : "update billboard set BillboardName='".toList
      = "update billboard set BillboardName=".toList ++ ['\''] := by decide +kernel
  have message : "', message='".toList = '\'' :: (", message=".toList ++ ['\'']) := by
    decide +kernel
  have info : "',info='".toList = '\'' :: (",info=".toList ++ ['\'']) := by decide +kernel
  have url : "',url='".toList = '\'' :: (",url=".toList ++ ['\'']) := by decide +kernel
  have where' : "' where billboardID='".toList
      = '\'' :: (" where billboardID=".toList ++ ['\'']) := by decide +kernel
  have stop : "';".toList = '\'' :: ";".toList := by decide
  have text : updateBillboardSql e.getVal
      = "update billboard set BillboardName=".toList ++ literals
        [(e.query1, messageGlue), (e.query2, infoGlue), (e.query3, urlGlue),
          (e.query4, whereIDGlue), (decimal e.id, semicolonGlue)] := by
    unfold updateBillboardSql
    rw [start, message, info, url, where', stop]
    simp only [literals, append_assoc, cons_append, nil_append, append_nil]
    rfl
  rw [text, reads_fill_iff [kw "update", kw "billboard", kw "set",
    kw "billboardname", equals] (by decide +kernel)
    (by simp [Separated, messageGlue, infoGlue, urlGlue, whereIDGlue, glue]) (by simp) rfl]
  have id : selfReading (decimal e.id) := by
    refine selfReading_of_plain (fun h => ?_) fun h => ?_
    · rcases isDigit_or_minus_of_mem_decimal h with h | h <;> simp at h
    · rcases isDigit_or_minus_of_mem_decimal h with h | h <;> simp at h
  simp [Request.texts, id]

/-- An id is read as the number it is, whatever its sign. -/
lemma read_decimal (k : Int32) :
    read .code (decimal k ++ ");".toList)
      = some ((Value.number k.toInt).tokens ++ [closing, semicolon]) := by
  have digits : ∀ n, ∀ c ∈ Nat.toDigits 10 n, c.isDigit := fun n c hc =>
    Nat.isDigit_of_mem_toDigits (by decide) (by decide) hc
  have after : ∀ c, ");".toList.head? = some c → isWordChar c = false := by
    intro c hc
    have first : ");".toList.head? = some ')' := by decide +kernel
    obtain rfl := Option.some.inj (first.symm.trans hc)
    decide
  have number : ∀ n, read .code (Nat.toDigits 10 n ++ ");".toList)
      = some [.number (Nat.toDigits 10 n), closing, semicolon] := by
    intro n
    rw [read_number (digits n) Nat.toDigits_ne_nil after]
    rfl
  by_cases hk : k.toInt < 0
  · -- a minus sign is read as a symbol of its own, since a digit follows it
    obtain ⟨d, ds, hds⟩ := List.exists_cons_of_ne_nil
      (Nat.toDigits_ne_nil (n := k.toInt.natAbs) (b := 10))
    have hd : d.isDigit := digits k.toInt.natAbs d (by simp [hds])
    have minus : d ≠ '-' := by rintro rfl; exact absurd hd (by decide)
    have sign : ∀ cs, read .code ('-' :: d :: cs)
        = (read .code (d :: cs)).map (.symbol '-' :: ·) := by
      intro cs
      rw [read_cons, read_cons, read_cons .code d]
      have first : step ⟨[], .code⟩ '-' = ⟨[], .dash⟩ := by decide
      rw [first]
      simp only [step, if_neg minus, List.nil_append]
      rw [enter_out [Token.symbol '-'] d, Option.map_map, Option.map_map]
      congr 1
    have rest := number k.toInt.natAbs
    rw [hds, List.cons_append] at rest
    rw [decimal_of_neg hk, hds, List.cons_append, List.cons_append, sign, rest, Value.tokens,
      if_pos hk, hds]
    rfl
  · rw [decimal_of_nonneg (by omega), number, Value.tokens, if_neg hk]
    rw [show k.toInt.toNat = k.toInt.natAbs by omega]
    rfl

lemma delete_reads (d : Delete) : Reads (deleteSql d.getVal) (deleteStmt d) := by
  have text : deleteSql d.getVal = "delete from view where billboardID=(".toList
      ++ (decimal d.billboardID ++ ");".toList) := by
    unfold deleteSql
    rw [append_assoc]
    rfl
  have start : scan .code "delete from view where billboardID=(".toList
      = ⟨[kw "delete", kw "from", kw "view", kw "where", kw "billboardid", equals, opening],
        .code⟩ := by decide +kernel
  have regroup : ∀ ts : List Token, [kw "delete", kw "from", kw "view", kw "where",
      kw "billboardid", equals, opening] ++ (ts ++ [closing, semicolon])
      = ([kw "delete", kw "from", kw "view", kw "where", kw "billboardid", equals, opening]
        ++ (ts ++ [closing])) ++ [semicolon] := by simp
  rw [Reads, text, lex, read_append, start, read_decimal, Option.map_some, Option.map_some,
    regroup, stripSemicolon, List.getLast?_concat, if_pos rfl, List.dropLast_concat]
  rfl

lemma selectView_reads : Reads selectViewSql selectViewStmt := by
  decide +kernel

/-- **The texts of a request are exactly the statements they are meant to be if and only if no
text field of it holds a single quote, or a backslash that is not directly before `%` or `_`.** -/
theorem sqlTexts_read_iff (r : Request) :
    List.Forall₂ Reads (sqlTexts r) (intended r) ↔
      ∀ f ∈ r.texts, '\'' ∉ f ∧
        ∀ pre post, f = pre ++ '\\' :: post →
          post.head? = some '%' ∨ post.head? = some '_' := by
  simp only [← selfReading_iff]
  cases r with
  | addBillboard a =>
      simp [sqlTexts, intended, insertBillboard_reads_iff, insertView_reads_iff]
  | addView a => simp [sqlTexts, intended, updateSchedule_reads_iff]
  | showTable => simp [sqlTexts, intended, selectView_reads, Request.texts]
  | delete d => simp [sqlTexts, intended, delete_reads, Request.texts]
  | editTable e => simp [sqlTexts, intended, updateBillboard_reads_iff]

/-- The id text `0' or '1'='1` of a schedule request makes its condition hold for every row. -/
theorem addView_id_widens_where :
    let r := Request.addView ⟨"0' or '1'='1".toList, "2020-05-05".toList, "09:00".toList,
      "10:00".toList⟩
    ¬ List.Forall₂ Reads (sqlTexts r) (intended r) ∧
      (lex (updateScheduleSql (Add.getVal ⟨"0' or '1'='1".toList, "2020-05-05".toList,
          "09:00".toList, "10:00".toList⟩))).map (List.drop 15)
        = some [kw "billboardid", equals, .quoted "0".toList, kw "or", .quoted "1".toList,
          equals, .quoted "1".toList] := by
  refine ⟨?_, by decide +kernel⟩
  simp only [sqlTexts, intended, List.forall₂_cons, List.Forall₂.nil, and_true]
  decide +kernel

lemma reads_of_plain {r : Request} (h : r.Plain) :
    List.Forall₂ Reads (sqlTexts r) (intended r) := by
  have self : ∀ f ∈ r.texts, selfReading f := fun f hf =>
    selfReading_of_plain (h f hf).1 (h f hf).2
  cases r with
  | addBillboard a =>
      exact .cons ((insertBillboard_reads_iff a).mpr self)
        (.cons ((insertView_reads_iff a).mpr self) .nil)
  | addView a => exact .cons ((updateSchedule_reads_iff a).mpr self) .nil
  | showTable => exact .cons selectView_reads .nil
  | delete d => exact .cons (delete_reads d) .nil
  | editTable e => exact .cons ((updateBillboard_reads_iff e).mpr self) .nil

end Billboard
