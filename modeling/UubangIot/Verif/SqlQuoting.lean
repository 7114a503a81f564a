import UubangIot.Lib.QuotedText
import UubangIot.Server.SqlText
import UubangIot.Verif.TextFacts

/-!
# Packet text inside the statements

The statements put packet text between quotes as it is. `meant` is the statement each template
stands for, with its values; the text that is sent is read as that statement exactly when no packet
text in it has a quote, or a backslash that is not before a wildcard.
-/

namespace UubangIot

open QuotedText

/-- A quoted value after a text. -/
abbrev Quoted := Bytes × Bytes

/-- The text, the values between quotes and the end of a statement, as its template means it. -/
def Statement.meant : Statement → List Quoted × Bytes
  | .insertMessage day userId friendId content =>
    ([(text "INSERT INTO `" ++ day ++
        text "` (`userId`, `friendId`, `Content`, `SendDate`) VALUES (", decimal userId),
      (text ", ", decimal friendId), (text ", ", content)],
      text ", " ++ text "CURRENT_TIMESTAMP)")
  | .insertScene iotid devClass cmdContent status cmdTime exeDate cmdGroup fromUserId =>
    ([(text ("INSERT INTO `userscenecmd` (`iotid`, `devClass`, `cmdContent`, `status`, " ++
        "`CmdTime`, `ExeDate`, `CmdGroup`, `fromUserId`) VALUES ("), decimal iotid),
      (text ", ", decimal devClass), (text ", ", cmdContent), (text ", ", decimal status),
      (text ", ", cmdTime), (text ", ", exeDate), (text ", ", decimal cmdGroup),
      (text ", ", decimal fromUserId)], text ")")
  | .insertEvent iotId evtClass status content =>
    ([(text ("INSERT INTO `iotevtcache` (`iotId`, `evtClass`, `status`, `content`, " ++
        "`updateDate`) VALUES ("), decimal iotId),
      (text ", ", decimal evtClass), (text ", ", decimal status), (text ", ", content)],
      text ", CURRENT_TIMESTAMP)")
  | .updateEvent status content iotId evtClass =>
    ([(text "UPDATE `iotevtcache` SET `status` = ", decimal status),
      (text ", `content` = ", content)],
      text ", `updateDate` = CURRENT_TIME() WHERE `iotevtcache`.`iotId` = " ++ decimal iotId ++
        text " AND `iotevtcache`.`evtClass` =  " ++ decimal evtClass)
  | .insertUser userId nickName passWord email =>
    ([(text ("INSERT INTO user (id, userId, nickName, passWord, email, registDate) VALUES " ++
        "(NULL, "), userId),
      (text ", ", nickName), (text ", ", passWord), (text ", ", email)],
      text ", " ++ text "CURRENT_TIMESTAMP)")
  | .insertCommand iotid devClass status cmd fromid cmdDate =>
    ([(text ("INSERT INTO `iotcmd` (`iotid`, `class`, `status`, `cmd`, `fromid`, `cmdDate`, " ++
        "`cmdStatus`) VALUES ("), decimal iotid),
      (text ", ", decimal devClass), (text ", ", decimal status), (text ", ", cmd),
      (text ", ", decimal fromid), (text ",", cmdDate), (text ", ", text "0")], text ")")
  | _ => ([], [])

/-- The packet texts a statement takes. -/
def Statement.fields : Statement → List Bytes
  | .insertMessage _ _ _ content => [content]
  | .insertScene _ _ cmdContent _ cmdTime exeDate _ _ => [cmdContent, cmdTime, exeDate]
  | .insertEvent _ _ _ content => [content]
  | .updateEvent _ content _ _ => [content]
  | .insertUser userId nickName passWord email => [userId, nickName, passWord, email]
  | .insertCommand _ _ _ cmd _ cmdDate => [cmd, cmdDate]
  | _ => []

/-- The day of a message table is a date: digits and dashes. -/
def Statement.dated : Statement → Prop
  | .insertMessage day _ _ _ => ∀ c ∈ day, c = 45 ∨ 48 ≤ c ∧ c ≤ 57
  | _ => True

/-- The single quote of the templates. -/
theorem text_quote : text "'" = [quote] := by decide

/-- Between two values a literal ends and the next one begins. -/
theorem text_between : text "', '" = quote :: text ", " ++ [quote] := by decide

/-- After the last value of its kind a literal ends. -/
theorem text_after : text "', " = quote :: text ", " := by decide

/-- What is sent is the template with its values between quotes. -/
theorem Statement.sql_format (statement : Statement) {sql : Bytes}
    (formatted : statement.sql = some sql) :
    sql = format statement.meant.1 statement.meant.2 := by
  have closing : text "')" = quote :: text ")" := by decide
  have tight : text "','" = quote :: text "," ++ [quote] := by decide
  have zero : text "', '0')" = quote :: text ", " ++ quote :: text "0" ++ quote :: text ")" := by
    decide
  cases statement <;> simp only [Statement.sql, Option.some.injEq, reduceCtorEq] at formatted <;>
    subst formatted <;>
    simp only [Statement.meant, format, printed, messageText, sceneText, eventText,
      eventUpdateText, userText, commandText, text_append, text_quote, text_between, text_after,
      closing, tight, zero, List.flatten_cons, List.flatten_nil, List.append_assoc,
      List.cons_append, List.nil_append, List.append_nil]

/-- Characters of numerals and dates are neither quotes nor backslashes. -/
theorem plain_of_numeral {word : Bytes} (numeral : ∀ c ∈ word, c = 45 ∨ 48 ≤ c ∧ c ≤ 57) :
    quote ∉ word ∧ backslash ∉ word := by
  constructor
  · intro member
    exact absurd (numeral _ member) (by decide)
  · intro member
    exact absurd (numeral _ member) (by decide)

/-- A decimal numeral has no quote. -/
theorem clean_decimal (value : Int) : clean (decimal value) = true := by
  obtain ⟨unquoted, unescaped⟩ := plain_of_numeral (decimal_characters value)
  exact clean_of_plain unquoted unescaped

/-- The templates have no quotes of their own and a separator after each value. -/
theorem Statement.meant_template (statement : Statement) (dated : statement.dated) :
    template (statement.meant.1.map Prod.fst) statement.meant.2 = true := by
  have numeral (value : Int) : quote ∉ decimal value :=
    (plain_of_numeral (decimal_characters value)).1
  cases statement with
  | insertMessage day userId friendId content =>
    -- Only the day and the numerals are not literals of the source.
    have plainDay : quote ∉ day := (plain_of_numeral dated).1
    have front : quote ∉ text "INSERT INTO `" := by decide
    have back : quote ∉ text "` (`userId`, `friendId`, `Content`, `SendDate`) VALUES (" := by
      decide +kernel
    have rest : template [text ", ", text ", "] (text ", " ++ text "CURRENT_TIMESTAMP)") = true := by
      decide +kernel
    have comma : separates (text ", ") = true := by decide
    simp only [Statement.meant, List.map_cons, List.map_nil]
    rw [template, rest]
    simp [following, front, plainDay, back, comma]
  | updateEvent status content iotId evtClass =>
    have front : quote ∉ text "UPDATE `iotevtcache` SET `status` = " := by decide +kernel
    have middle : quote ∉ text ", `content` = " := by decide
    have first : separates (text ", `content` = ") = true := by decide
    have second : quote ∉ text ", `updateDate` = CURRENT_TIME() WHERE `iotevtcache`.`iotId` = " := by
      decide +kernel
    have third : quote ∉ text " AND `iotevtcache`.`evtClass` =  " := by decide +kernel
    have tail (rest : Bytes) : separates
        (text ", `updateDate` = CURRENT_TIME() WHERE `iotevtcache`.`iotId` = " ++ rest) = true := by
      rfl
    simp only [Statement.meant, List.map_cons, List.map_nil, List.append_assoc]
    simp [template, following, front, middle, first, second, third, tail, numeral]
  | _ =>
    simp only [Statement.meant, List.map_cons, List.map_nil]
    decide +kernel

/-- The values of a template are clean exactly when its packet texts are. -/
theorem Statement.meant_clean (statement : Statement) {sql : Bytes}
    (formatted : statement.sql = some sql) :
    (∀ segment ∈ statement.meant.1, clean segment.2 = true) ↔
      ∀ field ∈ statement.fields, clean field = true := by
  have zero : clean (text "0") = true := by decide
  cases statement <;> simp [Statement.sql, Statement.meant, Statement.fields, clean_decimal, zero]
    at formatted ⊢

/-- The statement that a text is read as. -/
def readAs (sql : Bytes) : Option (List Token) := lex none sql

/-- The structure of a statement: what is read, without the values of the literals. -/
def structureOf (sql : Bytes) : Option (List Token) := (readAs sql).map (List.map Token.erased)

/-- A statement without its packet texts. -/
def Statement.blank : Statement → Statement
  | .insertMessage day userId friendId _ => .insertMessage day userId friendId []
  | .insertScene iotid devClass _ status _ _ cmdGroup fromUserId =>
    .insertScene iotid devClass [] status [] [] cmdGroup fromUserId
  | .insertEvent iotId evtClass status _ => .insertEvent iotId evtClass status []
  | .updateEvent status _ iotId evtClass => .updateEvent status [] iotId evtClass
  | .insertUser _ _ _ _ => .insertUser [] [] [] []
  | .insertCommand iotid devClass status _ fromid _ =>
    .insertCommand iotid devClass status [] fromid []
  | statement => statement

/-- The text around the values does not depend on the packet texts. -/
theorem Statement.blank_pieces (statement : Statement) :
    statement.blank.meant.1.map Prod.fst = statement.meant.1.map Prod.fst ∧
      statement.blank.meant.2 = statement.meant.2 := by
  cases statement <;> exact ⟨rfl, rfl⟩

/-- A statement that is read as it is meant. -/
theorem read_of_clean (statement : Statement) {sql : Bytes} (formatted : statement.sql = some sql)
    (dated : statement.dated) :
    readAs sql = some (tokens statement.meant.1 statement.meant.2) ↔
      ∀ field ∈ statement.fields, clean field = true := by
  rw [readAs, statement.sql_format formatted, lex_format_iff (statement.meant_template dated),
    statement.meant_clean formatted]

/-- With clean texts the structure is that of the template. -/
theorem structure_of_clean (statement : Statement) {sql : Bytes}
    (formatted : statement.sql = some sql) (dated : statement.dated)
    (good : ∀ field ∈ statement.fields, clean field = true) :
    structureOf sql = some (tokens ((statement.blank.meant.1.map Prod.fst).map fun piece =>
      (piece, [])) statement.blank.meant.2) := by
  have read := (read_of_clean statement formatted dated).mpr good
  rw [structureOf, read, Option.map_some, map_erased_tokens, statement.blank_pieces.1,
    statement.blank_pieces.2]

/-- Every statement with packet text is read as its template with those texts as its values, exactly
when the texts are clean; two statements that differ only in clean texts have one structure. -/
theorem packet_text_read_back_iff (statement : Statement) (sql : Bytes)
    (formatted : statement.sql = some sql) (dated : statement.dated) :
    (readAs sql = some (tokens statement.meant.1 statement.meant.2) ↔
        ∀ field ∈ statement.fields, clean field = true) ∧
      ∀ (other : Statement) (sql' : Bytes), other.sql = some sql' → other.dated →
        other.blank = statement.blank →
        (∀ field ∈ statement.fields ++ other.fields, clean field = true) →
        structureOf sql' = structureOf sql := by
  refine ⟨read_of_clean statement formatted dated, ?_⟩
  intro other sql' printed dated' same good
  have first := structure_of_clean statement formatted dated
    fun field member => good field (List.mem_append_left _ member)
  have second := structure_of_clean other printed dated'
    fun field member => good field (List.mem_append_right _ member)
  rw [first, second, same]

/-- A registration without quotes is read back. -/
theorem packet_text_read_back_registration :
    readAs (userText (text "13800000000") (text "NY") (text "secret") (text "a@b.c")) =
      some (tokens
        (Statement.insertUser (text "13800000000") (text "NY") (text "secret")
          (text "a@b.c")).meant.1
        (Statement.insertUser (text "13800000000") (text "NY") (text "secret")
          (text "a@b.c")).meant.2) :=
  (packet_text_read_back_iff
    (.insertUser (text "13800000000") (text "NY") (text "secret") (text "a@b.c")) _ rfl
    trivial).1.mpr (by decide)

/-- The text of a message that adds a row of its own. -/
def forgedMessage : Bytes := text "hi', CURRENT_TIMESTAMP), ('3', '2', 'forged"

/-- The statement of that message is read as one with six values and not three. -/
theorem message_changes_statement :
    (Statement.insertMessage (text "2020-01-01") 1 2 forgedMessage).dated ∧
      readAs (messageText (text "2020-01-01") 1 2 forgedMessage) ≠
        some (tokens (Statement.insertMessage (text "2020-01-01") 1 2 forgedMessage).meant.1
          (Statement.insertMessage (text "2020-01-01") 1 2 forgedMessage).meant.2) ∧
      structureOf (messageText (text "2020-01-01") 1 2 forgedMessage) ≠
        structureOf (messageText (text "2020-01-01") 1 2 (text "hi")) := by
  have date : ∀ c ∈ text "2020-01-01", c = 45 ∨ 48 ≤ c ∧ c ≤ 57 := by decide +kernel
  exact ⟨date, by decide +kernel, by decide +kernel⟩

end UubangIot
