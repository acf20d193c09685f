import AimailGateway.Api.Domains
import AimailGateway.Library.Delimiters
import AimailGateway.Library.SqlTokens

/-! # The texts of a rename

The two texts of statements into which `rename_agent_address_refs` pastes the
addresses, and which addresses stay inside the literals they are pasted into.
-/

namespace AimailGateway

open Library Sql Action

namespace Storage

/-! ## The texts -/

inductive RenamedAddress where
  | old
  | new

abbrev Template := List (Piece RenamedAddress)

/-- The statements on the main database. -/
def renameTemplate : Template :=
  [.code "\n", .code "BEGIN;\n",
    .comment [.fixed " domain_addr_meta: re-key in place (PK update; caller ",
    .fixed "pre-checked new absent)"],
    .code "UPDATE domain_addr_meta SET email_address = ",
    .literal [.hole .new], .code " WHERE email_address = ",
    .literal [.hole .old], .code ";\n",
    .comment [.fixed " api_keys: re-point the agent key (key material ",
    .fixed "untouched)"], .code "UPDATE api_keys SET domain_addr = ",
    .literal [.hole .new], .code " WHERE domain_addr = ",
    .literal [.hole .old], .code ";\n",
    .comment [.fixed " system_domains: re-key in place (webhook/secret ride ",
    .fixed "along)"], .code "UPDATE system_domains SET domain_addr = ",
    .literal [.hole .new], .code " WHERE domain_addr = ",
    .literal [.hole .old], .code ";\n",
    .comment [.fixed " whitelists, domain_addr side: copy to new key then ",
    .fixed "drop old rows"],
    .code "INSERT OR IGNORE INTO whitelists(system_id,domain_addr,",
    .code "direction,value,description,is_active,created_at,category,",
    .code "api_key_id)\n", .code "  SELECT system_id,", .literal [.hole .new],
    .code ",direction,value,description,is_active,created_at,category,",
    .code "api_key_id\n", .code "  FROM whitelists WHERE domain_addr = ",
    .literal [.hole .old], .code ";\n",
    .code "DELETE FROM whitelists WHERE domain_addr = ", .literal [.hole .old],
    .code ";\n",
    .comment [.fixed " whitelists, value side (other agents' rows pointing at ",
    .fixed "the old address):"],
    .comment [.fixed " copy with the value rewritten, then drop the originals."],
    .code "INSERT OR IGNORE INTO whitelists(system_id,domain_addr,",
    .code "direction,value,description,is_active,created_at,category,",
    .code "api_key_id)\n", .code "  SELECT system_id,domain_addr,direction,",
    .literal [.hole .new],
    .code ",description,is_active,created_at,category,api_key_id\n",
    .code "  FROM whitelists WHERE value = ", .literal [.hole .old],
    .code " AND domain_addr <> ", .literal [.hole .old], .code ";\n",
    .code "DELETE FROM whitelists WHERE value = ", .literal [.hole .old],
    .code " AND domain_addr <> ", .literal [.hole .old], .code ";\n",
    .comment [.fixed " whitelists rows already re-keyed above whose value was ",
    .fixed "also the old"],
    .comment [.fixed " address (agent <-> manager bidirectional entries on ",
    .fixed "the renamed address)"], .code "UPDATE whitelists SET value = ",
    .literal [.hole .new], .code " WHERE domain_addr = ",
    .literal [.hole .new], .code " AND value = ", .literal [.hole .old],
    .code ";\n",
    .comment [.fixed " agent_state: agent_addr side + state keys embedding ",
    .fixed "the address"], .comment [.fixed " (profile:/summary:/…:",
    .hole .old, .fixed " → …:", .hole .new, .fixed "); copy then drop."],
    .code "INSERT OR IGNORE INTO agent_state(agent_addr,state_key,",
    .code "state_value,created_at,updated_at)\n",
    .code "  SELECT CASE WHEN agent_addr = ", .literal [.hole .old],
    .code " THEN ", .literal [.hole .new], .code " ELSE agent_addr END,\n",
    .code "         replace(state_key,", .literal [.hole .old], .code ",",
    .literal [.hole .new], .code "), state_value, created_at, updated_at\n",
    .code "  FROM agent_state WHERE agent_addr = ", .literal [.hole .old],
    .code " OR state_key LIKE ", .literal [.fixed "%", .hole .old, .fixed "%"],
    .code ";\n", .code "DELETE FROM agent_state WHERE agent_addr = ",
    .literal [.hole .old], .code ";\n",
    .code "DELETE FROM agent_state WHERE agent_addr <> ",
    .literal [.hole .old], .code " AND state_key LIKE ",
    .literal [.fixed "%", .hole .old, .fixed "%"], .code ";\n",
    .code "COMMIT;\n"]

def boardTemplate : Template :=
  [.code "UPDATE boards SET board_email = ", .literal [.hole .new],
    .code " WHERE board_email = ", .literal [.hole .old], .code ";\n",
    .code "                     INSERT OR IGNORE INTO ",
    .code "board_members(email,role,display_name,board_token,board_id,",
    .code "joined_at,domains,capability_snapshot)\n",
    .code "                       SELECT ", .literal [.hole .new],
    .code ",role,display_name,board_token,board_id,joined_at,domains,",
    .code "capability_snapshot\n",
    .code "                       FROM board_members WHERE email = ",
    .literal [.hole .old], .code ";\n",
    .code "                     UPDATE tasks SET assignee = ",
    .literal [.hole .new], .code " WHERE assignee = ", .literal [.hole .old],
    .code ";\n", .code "                     UPDATE tasks SET reviewer = ",
    .literal [.hole .new], .code " WHERE reviewer = ", .literal [.hole .old],
    .code ";\n", .code "                     UPDATE tasks SET created_by = ",
    .literal [.hole .new], .code " WHERE created_by = ", .literal [.hole .old],
    .code ";\n", .code "                     UPDATE task_events SET actor = ",
    .literal [.hole .new], .code " WHERE actor = ", .literal [.hole .old],
    .code ";\n",
    .code "                     DELETE FROM board_members WHERE email ",
    .code "= ", .literal [.hole .old], .code ";"]

def addresses (old new : String) : RenamedAddress → String
  | .old => old
  | .new => new

/-- The batch on the main database. -/
def renameText (old new : String) : List Char :=
  render (addresses old new) renameTemplate

def boardText (old new : String) : List Char :=
  render (addresses old new) boardTemplate

/-- Both texts are cut into the intended tokens, each address being the value
of the literals it is pasted into. -/
structure StaysInside (old new : String) : Prop where
  main : tokens .code (renameText old new) =
    meaning (addresses old new) renameTemplate
  boards : tokens .code (boardText old new) =
    meaning (addresses old new) boardTemplate

theorem renameTemplate_wellFormed : wellFormed renameTemplate = true := by
  decide +kernel

theorem boardTemplate_wellFormed : wellFormed boardTemplate = true := by
  decide +kernel

/-! ## Addresses that stay inside their literals -/

section Texts

variable {old new : String}

/-- The fixed parts of the literals of a template have no apostrophe. -/
def fixedPlain : Piece RenamedAddress → Bool
  | .literal fragments => fragments.all (Fragment.avoids '\'')
  | _ => true

theorem tokens_template_iff (lines : '\n' ∉ old.toList ∧ '\n' ∉ new.toList)
    {template : Template} (formed : wellFormed template = true)
    (fixed : template.all fixedPlain = true)
    (pastesOld : .literal [.hole .old] ∈ template)
    (pastesNew : .literal [.hole .new] ∈ template) :
    tokens .code (render (addresses old new) template) =
        meaning (addresses old new) template ↔
      breaksLiteral old = false ∧ breaksLiteral new = false := by
  have free : ∀ name, '\n' ∉ (addresses old new name).toList := by
    intro name
    cases name with
    | old => exact lines.1
    | new => exact lines.2
  have intact : ∀ addr, breaksLiteral addr = false ↔ '\'' ∉ addr.toList := by
    intro addr
    rw [breaksLiteral, Text.containsChar, Bool.eq_false_iff, ne_eq,
      List.contains_iff_mem]
  rw [tokens_render_iff free template formed, intact, intact]
  constructor
  · intro plain
    have inOld := plain _ pastesOld
    have inNew := plain _ pastesNew
    simp only [fill, List.flatMap_cons, List.flatMap_nil, List.append_nil]
      at inOld inNew
    exact ⟨inOld, inNew⟩
  · rintro ⟨plainOld, plainNew⟩ fragments member
    apply not_mem_fill (List.all_eq_true.mp fixed _ member)
    intro name
    cases name with
    | old => exact plainOld
    | new => exact plainNew

theorem staysInside_iff (lines : '\n' ∉ old.toList ∧ '\n' ∉ new.toList) :
    StaysInside old new ↔
      breaksLiteral old = false ∧ breaksLiteral new = false := by
  have main : tokens .code (renameText old new) =
      meaning (addresses old new) renameTemplate ↔ _ :=
    tokens_template_iff lines renameTemplate_wellFormed (by decide +kernel)
      (by simp [renameTemplate]) (by simp [renameTemplate])
  have boards : tokens .code (boardText old new) =
      meaning (addresses old new) boardTemplate ↔ _ :=
    tokens_template_iff lines boardTemplate_wellFormed (by decide +kernel)
      (by simp [boardTemplate]) (by simp [boardTemplate])
  constructor
  · exact fun inside => main.mp inside.main
  · exact fun intact => ⟨main.mpr intact, boards.mpr intact⟩

theorem mem_bytes {character : Char} {text : String}
    (member : character ∈ text.toList) {byte : UInt8}
    (encoded : byte ∈ String.utf8EncodeChar character) :
    byte ∈ Text.bytes text :=
  List.mem_flatMap.mpr ⟨character, member, encoded⟩

theorem isSafe_line {addr : String} (safe : isSafe addr = true) :
    '\n' ∉ addr.toList := by
  intro member
  rw [isSafe, Bool.and_eq_true, List.all_eq_true] at safe
  have admitted := safe.2 10 (mem_bytes member (by decide))
  exact absurd admitted (by decide)

end Texts

end Storage

/-! ## The pairs that reach the assertion -/

namespace Api

open Storage

section Reach

variable (state : HttpState) (apiKey : ApiKeyRecord)

/-- A request passes every check before `rename_agent_address_refs` is called
with the two addresses. -/
structure ReachesRename (tid : String) (req : RenameAddressRequest)
    (world : World) (old new : String) : Prop where
  old_eq : old = normalized state req.oldEmail
  new_eq : new = normalized state req.newEmail
  checked : checkRename apiKey tid req old new = .ok ()
  unregistered : ∃ middle,
    (requireUnregistered state new).run world = (.ok (), middle) ∧
      ∃ later, (requireRegisteredIn state tid old).run middle = (.ok (), later)

/-- What follows the first `@` of an address. -/
def afterAt (addr : String) : String :=
  ((Text.splitOnce '@' addr).map Prod.snd).getD ""

end Reach

theorem isSafeByte_of_atext {byte : UInt8} (atext : isAtextNoDot byte = true) :
    isSafeByte byte = true := by
  have marks : ∀ mark ∈ Text.bytes "!#$%&'*+-/=?^_\x60\x7b|\x7d~",
      isSafeByte mark = true := by
    decide +kernel
  simp only [isAtextNoDot, Bool.or_eq_true, List.contains_iff_mem] at atext
  rcases atext with ((upper | lower) | digit) | mark
  · simp [isSafeByte, upper]
  · simp [isSafeByte, lower]
  · simp [isSafeByte, digit]
  · exact marks byte mark

theorem checkRename_ok {apiKey : ApiKeyRecord} {tid : String}
    {req : RenameAddressRequest} {old new : String}
    (checked : checkRename apiKey tid req old new = .ok ()) :
    Text.lastPiece '@' old ≠ "" ∧ Text.firstPiece '@' new ≠ "" ∧
      (Text.bytes (Text.firstPiece '@' new)).all isAtextNoDot = true := by
  rw [checkRename] at checked
  cases scope : requireScopeAny apiKey ["system"] with
  | error refusal =>
      rw [scope] at checked
      cases checked
  | ok _ =>
      rw [scope] at checked
      change (if _ then _ else if _ then _ else if _ then _ else _) = _
        at checked
      split at checked
      · cases checked
      · split at checked
        · cases checked
        · split at checked
          · cases checked
          · next domain =>
              rw [not_or] at domain
              have legal : (Text.firstPiece '@' new != "" &&
                  Text.byteLength (Text.firstPiece '@' new) ≤ 64 &&
                  (Text.bytes (Text.firstPiece '@' new)).all isAtextNoDot &&
                  dotCount (Text.firstPiece '@' new) ==
                    (if isShared tid then 1 else 0)) = true := by
                by_contra illegal
                rw [if_neg illegal] at checked
                cases checked
              simp only [Bool.and_eq_true, bne_iff_ne] at legal
              exact ⟨domain.1, legal.1.1.1, legal.1.2⟩

theorem bytes_append (first second : String) :
    Text.bytes (first ++ second) = Text.bytes first ++ Text.bytes second := by
  simp [Text.bytes]

/-- An address is its first piece, with what follows the first `@`. -/
theorem bytes_cut (addr : String) :
    (Text.bytes addr).all isSafeByte =
      ((Text.bytes (Text.firstPiece '@' addr)).all isSafeByte &&
        (Text.bytes (afterAt addr)).all isSafeByte) := by
  rw [afterAt]
  cases cut : Text.splitOnce '@' addr with
  | none =>
      have absent : '@' ∉ addr.toList := by
        intro present
        rcases List.eq_append_cons_of_mem present with ⟨before, after, at_, free⟩
        rw [Text.splitOnce_cut at_ free] at cut
        cases cut
      have whole : Text.firstPiece '@' addr = addr := by
        have kept : ∀ letter ∈ addr.toList, (letter != '@') = true := by
          intro letter member
          rw [bne_iff_ne]
          exact fun same => absent (same ▸ member)
        rw [Text.firstPiece, List.takeWhile_eq_self_iff.mpr kept,
          String.ofList_toList]
      rw [whole]
      simp [Text.bytes]
  | some parts =>
      rcases parts with ⟨first, rest⟩
      have pieces := Text.cut_of_splitOnce cut
      have begins : Text.firstPiece '@' addr = first := by
        rw [Text.firstPiece_cut pieces.1 pieces.2, String.ofList_toList]
      have joined : addr = first ++ ("@" ++ rest) := by
        apply String.toList_injective
        rw [pieces.1, String.toList_append, String.toList_append]
        rfl
      have sign : (Text.bytes "@").all isSafeByte = true := by decide
      have whole : Text.bytes addr =
          Text.bytes first ++ (Text.bytes "@" ++ Text.bytes rest) := by
        rw [joined, bytes_append, bytes_append]
      rw [begins, whole, List.all_append, List.all_append, sign, Bool.true_and]
      rfl

/-- The checks on the local part leave only what follows the `@` of the new
address, and the old address, to the assertion. -/
theorem isSafe_iff_of_reaches {state : HttpState} {apiKey : ApiKeyRecord}
    {tid : String} {req : RenameAddressRequest} {world : World}
    {old new : String} (reaches : ReachesRename state apiKey tid req world old new) :
    (isSafe old && isSafe new) = true ↔
      (Text.byteLength old ≤ 255 ∧ (Text.bytes old).all isSafeByte = true) ∧
        Text.byteLength new ≤ 255 ∧
        (Text.bytes (afterAt new)).all isSafeByte = true := by
  rcases checkRename_ok reaches.checked with ⟨domain, nonempty, atext⟩
  have oldGiven : old ≠ "" := by
    intro empty
    rw [empty] at domain
    exact domain (by decide)
  have newGiven : new ≠ "" := by
    intro empty
    rw [empty] at nonempty
    exact nonempty (by decide)
  have localSafe : (Text.bytes (Text.firstPiece '@' new)).all isSafeByte =
      true := by
    rw [List.all_eq_true] at atext ⊢
    exact fun byte member => isSafeByte_of_atext (atext byte member)
  rw [isSafe, isSafe, bytes_cut new, localSafe]
  simp [oldGiven, newGiven]

/-- Admitted addresses stay inside their literals exactly when neither has an
apostrophe; a pair passes the assertion exactly when both are short and of
admitted bytes. -/
theorem renameTexts_exact (state : HttpState) (apiKey : ApiKeyRecord) :
    (∀ old new, (isSafe old && isSafe new) = true →
      (StaysInside old new ↔
        breaksLiteral old = false ∧ breaksLiteral new = false)) ∧
    (∀ tid req world old new,
      ReachesRename state apiKey tid req world old new →
      ((isSafe old && isSafe new) = true ↔
        (Text.byteLength old ≤ 255 ∧ (Text.bytes old).all isSafeByte = true) ∧
          Text.byteLength new ≤ 255 ∧
          (Text.bytes (afterAt new)).all isSafeByte = true)) := by
  constructor
  · intro old new safe
    rw [Bool.and_eq_true] at safe
    exact staysInside_iff ⟨isSafe_line safe.1, isSafe_line safe.2⟩
  · exact fun tid req world old new reaches => isSafe_iff_of_reaches reaches

/-- An admitted address with an apostrophe leaves its literal. -/
theorem apostrophe_leaves_literal :
    (isSafe "bob@x.org" && isSafe "o'hara@x.org") = true ∧
      ¬ StaysInside "bob@x.org" "o'hara@x.org" := by
  refine ⟨by decide +kernel, ?_⟩
  rw [staysInside_iff ⟨by decide, by decide⟩]
  decide

end Api

end AimailGateway
