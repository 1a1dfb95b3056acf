import Widgetry.Proofs.Fetching.Handles
import Widgetry.Proofs.Resources.Kinds

/-!
# Data URIs read back

A data URI is read by the rule of its scheme: what stands before the first comma is the header,
which ends in `;base64`, and the rest is the content in base64. Base64 is read back for every list
of bytes (`decode?_encode`). The main theorem, `data_uris_carry_resources`, says of every loaded
resource what its data URI is read as: its content kind and its bytes, unless the reported type has
a comma before its parameters. Such a comma ends the header too early, and nothing can be read.
-/

namespace Widgetry

namespace Text.Base64

/-! ## Reading base64 -/

/-- The characters of base64 in the order of their values. -/
def alphabet : List Char :=
  "ABCDEFGHIJKLMNOPQRSTUVWXYZabcdefghijklmnopqrstuvwxyz0123456789+/".toList

/-- The value of a character. -/
def value? (c : Char) : Option Nat :=
  alphabet.findIdx? (· == c)

/-- Read base64 in groups of four characters. The last group may be padded, and bits that no byte
takes have to be zero. -/
def decodeList? : List Char → Option Bytes
  | [] => some []
  | a :: b :: c :: d :: rest => do
      let w ← value? a
      let x ← value? b
      let first := UInt8.ofNat (w * 4 + x / 16)
      if c = '=' && d = '=' && rest.isEmpty then
        if x % 16 = 0 then some [first] else none
      else
        let y ← value? c
        let second := UInt8.ofNat (x % 16 * 16 + y / 4)
        if d = '=' && rest.isEmpty then
          if y % 4 = 0 then some [first, second] else none
        else
          let z ← value? d
          let bytes ← decodeList? rest
          some (first :: second :: UInt8.ofNat (y % 4 * 64 + z) :: bytes)
  | _ => none

/-- Read base64. -/
def decode? (text : String) : Option Bytes :=
  decodeList? text.toList

/-- Every value below 64 has a character, which is not the padding sign. -/
theorem value?_symbol {n : Nat} (hn : n < 64) : value? (symbol n) = some n ∧ symbol n ≠ '=' := by
  have hall : ∀ m ∈ List.range 64, decide (value? (symbol m) = some m ∧ symbol m ≠ '=') = true :=
    List.all_eq_true.mp (by decide)
  exact of_decide_eq_true (hall n (List.mem_range.mpr hn))

/-- The first byte of a group is put together again, whatever follows its last bits. -/
theorem first_byte (a : UInt8) {n : Nat} (hn : n < 16) :
    UInt8.ofNat (a.toNat / 4 * 4 + (a.toNat % 4 * 16 + n) / 16) = a := by
  have hbits : a.toNat / 4 * 4 + (a.toNat % 4 * 16 + n) / 16 = a.toNat := by omega
  rw [hbits, UInt8.ofNat_toNat]

/-- The second byte of a group is put together again, whatever stands around its bits. -/
theorem second_byte (m : Nat) (b : UInt8) {n : Nat} (hn : n < 4) :
    UInt8.ofNat ((m * 16 + b.toNat / 16) % 16 * 16 + (b.toNat % 16 * 4 + n) / 4) = b := by
  have hb := b.toNat_lt
  have hbits : (m * 16 + b.toNat / 16) % 16 * 16 + (b.toNat % 16 * 4 + n) / 4 = b.toNat := by omega
  rw [hbits, UInt8.ofNat_toNat]

/-- The third byte of a group is put together again, whatever stands before its bits. -/
theorem third_byte (m : Nat) (c : UInt8) :
    UInt8.ofNat ((m * 4 + c.toNat / 64) % 4 * 64 + c.toNat % 64) = c := by
  have hc := c.toNat_lt
  have hbits : (m * 4 + c.toNat / 64) % 4 * 64 + c.toNat % 64 = c.toNat := by omega
  rw [hbits, UInt8.ofNat_toNat]

/-- Base64 is read back, whatever the last group lacks. -/
theorem decode_list?_encode_list (bytes : Bytes) : decodeList? (encodeList bytes) = some bytes := by
  -- The cases are those of the last group: none, one byte with two signs of padding, two bytes with
  -- one, and a full group with more to come.
  fun_induction encodeList bytes with
  | case1 => rfl
  | case2 a =>
      have ha := a.toNat_lt
      have hw := value?_symbol (show a.toNat / 4 < 64 by omega)
      have hx := value?_symbol (show a.toNat % 4 * 16 < 64 by omega)
      have hfirst : UInt8.ofNat (a.toNat / 4 * 4 + a.toNat % 4 * 16 / 16) = a :=
        first_byte a (by decide : 0 < 16)
      have hzero : a.toNat % 4 * 16 % 16 = 0 := by omega
      simp only [decodeList?, hw.1, hx.1, Option.bind_eq_bind, Option.bind_some, hfirst, hzero,
        decide_true, List.isEmpty_nil, Bool.and_self, ite_true]
  | case3 a b =>
      have ha := a.toNat_lt
      have hb := b.toNat_lt
      have hw := value?_symbol (show a.toNat / 4 < 64 by omega)
      have hx := value?_symbol (show a.toNat % 4 * 16 + b.toNat / 16 < 64 by omega)
      have hy := value?_symbol (show b.toNat % 16 * 4 < 64 by omega)
      have hfirst := first_byte a (show b.toNat / 16 < 16 by omega)
      have hsecond : UInt8.ofNat ((a.toNat % 4 * 16 + b.toNat / 16) % 16 * 16 +
          b.toNat % 16 * 4 / 4) = b := second_byte (a.toNat % 4) b (by decide : 0 < 4)
      have hzero : b.toNat % 16 * 4 % 4 = 0 := by omega
      simp only [decodeList?, hw.1, hx.1, hy.1, hy.2, Option.bind_eq_bind, Option.bind_some, hfirst,
        hsecond, hzero, decide_true, decide_false, List.isEmpty_nil, Bool.and_self, Bool.false_and,
        ite_true, Bool.false_eq_true, ite_false]
  | case4 a b c rest ih =>
      have ha := a.toNat_lt
      have hb := b.toNat_lt
      have hc := c.toNat_lt
      have hw := value?_symbol (show a.toNat / 4 < 64 by omega)
      have hx := value?_symbol (show a.toNat % 4 * 16 + b.toNat / 16 < 64 by omega)
      have hy := value?_symbol (show b.toNat % 16 * 4 + c.toNat / 64 < 64 by omega)
      have hz := value?_symbol (show c.toNat % 64 < 64 by omega)
      have hfirst := first_byte a (show b.toNat / 16 < 16 by omega)
      have hsecond := second_byte (a.toNat % 4) b (show c.toNat / 64 < 4 by omega)
      have hthird := third_byte (b.toNat % 16) c
      simp only [decodeList?, hw.1, hx.1, hy.1, hy.2, hz.1, hz.2, Option.bind_eq_bind,
        Option.bind_some, hfirst, hsecond, hthird, decide_false, Bool.false_and,
        Bool.false_eq_true, ite_false, ih]

/-- Base64 is read back. -/
theorem decode?_encode (bytes : Bytes) : decode? (encode bytes) = some bytes := by
  rw [decode?, encode, String.toList_ofList, decode_list?_encode_list]

/-- A character with a value is one of base64. -/
theorem mem_alphabet_of_value? {c : Char} {n : Nat} (h : value? c = some n) : c ∈ alphabet := by
  by_contra hmem
  have hnone : value? c = none := List.findIdx?_eq_none_iff.mpr fun d hd =>
    beq_false_of_ne fun heq => hmem (heq ▸ hd)
  rw [hnone] at h
  cases h

/-- Every value is written with such a character. Values above 63 do not occur. -/
theorem symbol_mem_alphabet (n : Nat) : symbol n ∈ alphabet := by
  by_cases hn : n < 64
  · exact mem_alphabet_of_value? (value?_symbol hn).1
  · have hslash : symbol n = symbol 63 := by
      unfold symbol
      rw [if_neg (by omega), if_neg (by omega), if_neg (by omega), if_neg (by omega)]
      rfl
    rw [hslash]
    exact mem_alphabet_of_value? (value?_symbol (by decide)).1

/-- Base64 is written with its characters and the padding sign. -/
theorem mem_encode {c : Char} {bytes : Bytes} (hc : c ∈ (encode bytes).toList) :
    c = '=' ∨ c ∈ alphabet := by
  rw [encode, String.toList_ofList] at hc
  fun_induction encodeList bytes with
  | case1 => cases hc
  | case2 a =>
      simp only [List.mem_cons, List.not_mem_nil, or_false] at hc
      rcases hc with rfl | rfl | rfl | rfl
      · exact .inr (symbol_mem_alphabet _)
      · exact .inr (symbol_mem_alphabet _)
      · exact .inl rfl
      · exact .inl rfl
  | case3 a b =>
      simp only [List.mem_cons, List.not_mem_nil, or_false] at hc
      rcases hc with rfl | rfl | rfl | rfl
      · exact .inr (symbol_mem_alphabet _)
      · exact .inr (symbol_mem_alphabet _)
      · exact .inr (symbol_mem_alphabet _)
      · exact .inl rfl
  | case4 a b d rest ih =>
      simp only [List.mem_cons] at hc
      rcases hc with rfl | rfl | rfl | rfl | hc
      · exact .inr (symbol_mem_alphabet _)
      · exact .inr (symbol_mem_alphabet _)
      · exact .inr (symbol_mem_alphabet _)
      · exact .inr (symbol_mem_alphabet _)
      · exact ih hc

end Text.Base64

/-! ## Reading data URIs -/

namespace DataUri

/-- Read a data URI: the media type before `;base64` in the header, and the bytes. -/
def read? (uri : String) : Option (String × Text.Bytes) := do
  let rest ← Text.after? "data:".toList uri.toList
  let (header, body) ← Text.cutFirst? ',' rest
  let type ← Text.before? ";base64".toList header
  let bytes ← Text.Base64.decode? (String.ofList body)
  some (String.ofList type, bytes)

variable {resource : Resource}

/-- A data URI is cut at its first comma, and the part before it is the header. -/
theorem read?_of_header {uri : String} {header body : List Char}
    (huri : uri.toList = "data:".toList ++ (header ++ ',' :: body)) (hheader : ',' ∉ header) :
    read? uri = (Text.before? ";base64".toList header).bind fun type =>
      (Text.Base64.decode? (String.ofList body)).bind fun bytes =>
        some (String.ofList type, bytes) := by
  have hrest : Text.after? "data:".toList uri.toList = some (header ++ ',' :: body) :=
    Text.after?_eq_some_iff.mpr huri
  have hcut : Text.cutFirst? ',' (header ++ ',' :: body) = some (header, body) :=
    Text.cut_first?_eq_some_iff.mpr ⟨rfl, hheader⟩
  rw [read?, hrest, Option.bind_eq_bind, Option.bind_some, hcut]
  rfl

/-- The characters of a data URI. -/
theorem to_list_data_uri (resource : Resource) :
    resource.dataUri.toList = "data:".toList ++ (resource.kind.toList ++ ";base64".toList ++
      ',' :: (Text.Base64.encode resource.bytes).toList) := by
  unfold Resource.dataUri
  simp only [String.toList_append, List.append_assoc]
  rfl

/-- Without a comma in the content kind, a data URI carries content kind and bytes. -/
theorem read?_data_uri (hcomma : ',' ∉ resource.kind.toList) :
    read? resource.dataUri = some (resource.kind, resource.bytes) := by
  have hheader : ',' ∉ resource.kind.toList ++ ";base64".toList := by
    simpa using hcomma
  have htype : Text.before? ";base64".toList (resource.kind.toList ++ ";base64".toList) =
      some resource.kind.toList := Text.before?_eq_some_iff.mpr rfl
  rw [read?_of_header (to_list_data_uri resource) hheader, htype, String.ofList_toList,
    Text.Base64.decode?_encode, Option.bind_some, Option.bind_some, String.ofList_toList]

/-- With a comma in a content kind without parameters, a data URI cannot be read: its header ends in
the midst of the content kind. -/
theorem read?_data_uri_of_comma (hcomma : ',' ∈ resource.kind.toList)
    (hbare : ';' ∉ resource.kind.toList) : read? resource.dataUri = none := by
  obtain ⟨header, rest, hkind, hheader⟩ := List.eq_append_cons_of_mem hcomma
  have huri := to_list_data_uri resource
  rw [hkind, List.append_assoc, List.append_assoc, List.cons_append] at huri
  have htype : Text.before? ";base64".toList header = none := by
    cases hbefore : Text.before? ";base64".toList header with
    | none => rfl
    | some type =>
        -- A header that ends in `;base64` would put a semicolon into the content kind.
        rw [Text.before?_eq_some_iff] at hbefore
        refine absurd ?_ hbare
        rw [hkind, hbefore]
        simp
  rw [read?_of_header huri hheader, htype]
  rfl

end DataUri

/-! ## Resources come from answers -/

namespace History

/-- In a run, a fetch of a URL could be answered so. -/
def Delivers (events : List Event) (url : String) (fetched : Fetched) : Prop :=
  ∃ transport client rounds,
    Event.poll transport client url ∈ events ∧ transport url = .after rounds (.ok fetched)

/-- Every resource of a cache is made of an answer. -/
def IsDelivered (events : List Event) (cache : Cache) : Prop :=
  ∀ url resource, cache.outcome? url = some (.ok resource) → ∃ fetched,
    Delivers events url fetched ∧ resource.kind = ContentKind.detect url fetched.type ∧
      resource.bytes = fetched.bytes

variable {events : List Event} {cache cache' : Cache}

/-- A longer run has more answers. -/
theorem IsDelivered.concat (h : IsDelivered events cache) (event : Event) :
    IsDelivered (events ++ [event]) cache := by
  intro url resource houtcome
  obtain ⟨fetched, ⟨transport, client, rounds, hmem, htransport⟩, hresource⟩ :=
    h url resource houtcome
  exact ⟨fetched, ⟨transport, client, rounds, List.mem_append_left _ hmem, htransport⟩, hresource⟩

/-- A cache that holds the same has resources made of the same answers. -/
theorem IsDelivered.of_holds (h : IsDelivered events cache) (hholds : cache.Holds cache') :
    IsDelivered events cache' :=
  fun url resource houtcome => h url resource (hholds.2 url ▸ houtcome)

/-- The resource that a cache gains is made of the answer. -/
theorem IsDelivered.of_gains (h : IsDelivered events cache) {url : String}
    {answer : Except FetchError Fetched} (hgains : cache.Gains url answer cache')
    (hanswer : ∀ fetched, answer = .ok fetched → Delivers events url fetched) :
    IsDelivered events cache' := by
  intro other resource houtcome
  rw [hgains.outcome] at houtcome
  split at houtcome
  · rename_i hurl
    subst hurl
    cases answer with
    | error e => cases houtcome
    | ok fetched =>
        cases houtcome
        exact ⟨fetched, hanswer fetched rfl, rfl, rfl⟩
  · exact h other resource houtcome

/-- An event adds no resource but of its answer. -/
theorem IsDelivered.observe {h : History} (hdelivered : IsDelivered events h.session.cache)
    (event : Event) : IsDelivered (events ++ [event]) (h.observe event).session.cache := by
  have hdelivered := hdelivered.concat event
  cases event with
  | poll transport client url =>
      have hpolled := Session.poll_polled transport client url h.session
      rw [History.observe, session_observe_poll]
      rcases hpolled.holds_or_gains with hholds | ⟨rounds, answer, htransport, hgains⟩
      · exact hdelivered.of_holds hholds
      · refine hdelivered.of_gains hgains fun fetched hfetched => ?_
        subst hfetched
        exact ⟨transport, client, rounds, List.mem_append_right _ List.mem_cons_self, htransport⟩
  | abandon client url => exact hdelivered.of_holds (Cache.holds_release client url)
  | pass round => exact hdelivered

/-- Every resource that a run has loaded is made of an answer in the run. -/
theorem is_delivered_run (events : List Event) :
    IsDelivered events (History.empty.run events).session.cache := by
  induction events using List.reverseRecOn with
  | nil =>
      intro url resource houtcome
      cases houtcome
  | append_singleton events event ih =>
      rw [run, List.foldl_concat]
      exact ih.observe event

end History

/-! ## Data URIs of loaded resources -/

/-- **Data URIs carry resources, unless a comma is in the way.** Every resource that a run has
loaded is made of an answer in the run, with the content kind that the URL and the reported type
give. Its data URI is read as this content kind and these bytes, except that nothing can be read if
the reported type has a comma before its parameters. -/
theorem data_uris_carry_resources (events : List Event) (url : String) (resource : Resource)
    (hloaded : (History.empty.run events).session.cache.loaded? url = some resource) :
    ∃ fetched, History.Delivers events url fetched ∧
      resource.kind = ContentKind.detect url fetched.type ∧ resource.bytes = fetched.bytes ∧
      DataUri.read? resource.dataUri =
        if ContentKind.hasSign ',' fetched.type then none
        else some (resource.kind, resource.bytes) := by
  obtain ⟨fetched, hdelivers, hkind, hbytes⟩ :=
    History.is_delivered_run events url resource (Cache.loaded?_eq_some.mp hloaded)
  have hcomma := ContentKind.sign_mem_detect_iff (show ',' ∈ [',', '"', '&'] by decide) url
    fetched.type
  rw [← hkind] at hcomma
  refine ⟨fetched, hdelivers, hkind, hbytes, ?_⟩
  split
  · rename_i hfetched
    have hnormal := ContentKind.is_normal_detect url fetched.type
    rw [← hkind] at hnormal
    exact DataUri.read?_data_uri_of_comma (hcomma.mpr hfetched) hnormal.bare
  · rename_i hfetched
    exact DataUri.read?_data_uri fun hmem => hfetched (hcomma.mp hmem)

/-- A response with capitals, blanks and parameters in its type, and a short last group. -/
theorem data_uris_carry_resources_short :
    let events := [Event.poll
      (fun _ => .after 0 (.ok ⟨[0x47, 0x00, 0x49, 0xFF], some " Image/GIF ; q=1,2"⟩)) 1 "dot"]
    let resource : Resource := ⟨"dot", 0, "image/gif", [0x47, 0x00, 0x49, 0xFF]⟩
    (History.empty.run events).session.cache.loaded? "dot" = some resource ∧
      ∃ fetched, History.Delivers events "dot" fetched ∧
        resource.kind = ContentKind.detect "dot" fetched.type ∧ resource.bytes = fetched.bytes ∧
        DataUri.read? resource.dataUri =
          if ContentKind.hasSign ',' fetched.type then none
          else some (resource.kind, resource.bytes) :=
  ⟨rfl, data_uris_carry_resources _ _ _ rfl⟩

/-- Two types joined by a comma are kept as one content kind, and the data URI cannot be read. -/
theorem joined_types_spoil_data_uri :
    ∃ resource, (History.empty.run [Event.poll
        (fun _ => .after 0 (.ok ⟨[0x47, 0x49, 0x46], some "image/png, image/png"⟩)) 1 "dot.gif"]
          ).session.cache.loaded? "dot.gif" = some resource ∧
      resource.dataUri = "data:image/png, image/png;base64,R0lG" ∧
      DataUri.read? resource.dataUri ≠ some (resource.kind, resource.bytes) :=
  ⟨⟨"dot.gif", 0, "image/png, image/png", [0x47, 0x49, 0x46]⟩, rfl, by decide, by decide⟩

end Widgetry
