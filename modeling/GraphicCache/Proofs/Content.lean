/-
The moves of a graphic's content by themselves. A move out of memory frees exactly the size the
content had, and a move into memory brings exactly the size it has then; and a content goes on
showing the payload that it was given, in memory or out, until it is given another.
-/
import GraphicCache.Graphic
import GraphicCache.Proofs.SwapFile.RoundTrip

namespace GraphicCache

namespace Content

variable {c c' : Content} {p : Payload} {id n : Nat} {now : Moment} {canStore : Bool}

/-! ## What moves look like -/

theorem swapOut_ok (h : c.swapOut canStore = .ok (some (c', n))) :
    ∃ p, c.payload = some p ∧ c.swappedOut = false ∧ n = p.size ∧
      ((∃ link page, c.backing = .link link page ∧
          c' = { c with payload := none, swappedOut := true }) ∨
        (∀ link page, c.backing ≠ .link link page) ∧
          c' = { c with backing := .file (.write p), payload := none, swappedOut := true }) := by
  unfold swapOut at h
  cases payload : c.payload with
  | none => rw [payload] at h; cases h
  | some p =>
    rw [payload] at h
    dsimp only at h
    refine ⟨p, rfl, ?_⟩
    split at h
    · cases h
    · next inside =>
      have inside : c.swappedOut = false := by simpa using inside
      split at h
      · next link page backing =>
        cases h
        exact ⟨inside, rfl, .inl ⟨link, page, backing, rfl⟩⟩
      · next noLink =>
        split at h
        · cases h
          exact ⟨inside, rfl, .inr ⟨noLink, rfl⟩⟩
        · cases h

theorem restore_ok (h : c.restore id now = .ok (some (c', n))) :
    ∃ p, c.swappedOut = true ∧ c.recover id = .ok p ∧ n = p.size ∧ c'.payload = some p ∧
      c'.swappedOut = false ∧ c'.kind = p.kind ∧ c'.external = c.external ∧
      (c'.backing = .none ∨ c'.backing = c.backing ∧ ∀ f, c.backing ≠ .file f) := by
  unfold restore at h
  split at h
  · next out =>
    cases recovered : c.recover id with
    | error fault => rw [recovered] at h; cases h
    | ok p =>
      rw [recovered] at h
      cases h
      refine ⟨p, out, rfl, rfl, rfl, rfl, rfl, rfl, ?_⟩
      cases backing : c.backing with
      | file f => exact .inl (by simp)
      | none => exact .inl (by simp)
      | link link page => exact .inr ⟨by simp, by simp⟩
  · cases h

/-! ## Taking out -/

/-- Whether there is a link behind the content. -/
def isLinked (c : Content) : Bool :=
  match c.backing with
  | .link .. => true
  | _ => false

/-- The content without its payload: a link goes on standing for it, and otherwise a new swap file
does. -/
def stowed (c : Content) : Content :=
  { c with
    payload := none
    swappedOut := true
    backing := match c.backing, c.payload with
      | .link link page, _ => .link link page
      | _, some p => .file (.write p)
      | b, none => b }

/-- A payload in memory can be taken out if it has a link or can be stored. -/
theorem swapOut_eq (c : Content) (canStore : Bool) :
    c.swapOut canStore =
      if c.isAvailable then
        if c.isLinked || canStore then .ok (some (c.stowed, c.size)) else .error .noSwapFile
      else .ok none := by
  unfold swapOut isAvailable isLinked stowed size
  cases c.payload with
  | none => simp
  | some p =>
    cases c.swappedOut with
    | true => simp
    | false => cases c.backing <;> cases canStore <;> simp

/-- What has a link stays as it is but for the payload. -/
theorem stowed_of_isLinked (linked : c.isLinked = true) :
    c.stowed = { c with payload := none, swappedOut := true } := by
  unfold isLinked at linked
  unfold stowed
  split at linked
  · next link page backing => rw [backing]
  · cases linked

/-! ## The time of use -/

/-- Swapping out is no use. -/
theorem lastUsed_swapOut (h : c.swapOut canStore = .ok (some (c', n))) :
    c'.lastUsed = c.lastUsed := by
  obtain ⟨p, -, -, -, ⟨link, page, -, rfl⟩ | ⟨-, rfl⟩⟩ := swapOut_ok h
  · rfl
  · rfl

/-- Swapping in is one. -/
theorem lastUsed_restore (h : c.restore id now = .ok (some (c', n))) : c'.lastUsed = now := by
  unfold restore at h
  split at h
  · cases recovered : c.recover id with
    | error fault => rw [recovered] at h; cases h
    | ok p => rw [recovered] at h; cases h; rfl
  · cases h

/-- A copy is used when it is made. -/
theorem lastUsed_duplicate (h : c.duplicate now = .ok c') : c'.lastUsed = now := by
  unfold duplicate at h
  split at h
  · cases h; rfl
  · cases h; rfl
  · split at h
    · cases h; rfl
    · next f backing =>
      cases read : f.read with
      | error e => rw [read] at h; cases h
      | ok p => rw [read] at h; cases h; rfl
    · cases h; rfl

/-! ## Sizes -/

theorem size_eq_of_payload (payload : c.payload = some p) (inside : c.swappedOut = false) :
    c.size = p.size := by
  unfold size
  rw [payload, inside]
  rfl

theorem size_eq_zero_of_out (out : c.swappedOut = true) : c.size = 0 := by
  unfold size
  split
  · rw [if_pos out]
  · rfl

/-- Taking a payload out of memory frees the size of the content. -/
theorem size_swapOut (h : c.swapOut canStore = .ok (some (c', n))) : c.size = n ∧ c'.size = 0 := by
  obtain ⟨p, payload, inside, rfl, ⟨link, page, -, rfl⟩ | ⟨-, rfl⟩⟩ := swapOut_ok h
  · exact ⟨size_eq_of_payload payload inside, rfl⟩
  · exact ⟨size_eq_of_payload payload inside, rfl⟩

/-- Bringing a payload back into memory takes the size of the content. -/
theorem size_restore (h : c.restore id now = .ok (some (c', n))) : c.size = 0 ∧ c'.size = n := by
  obtain ⟨p, out, -, rfl, payload, inside, -⟩ := restore_ok h
  exact ⟨size_eq_zero_of_out out, size_eq_of_payload payload inside⟩

/-- The size is what a manager relies on for a graphic in memory. -/
theorem dependableSize_profile (g : Graphic) : g.profile.dependableSize = g.size := by
  unfold Graphic.profile Profile.dependableSize Content.isAvailable Content.size
  cases g.payload with
  | none => simp
  | some p => cases g.swappedOut <;> simp

/-- A graphic adds its size to the usage. -/
theorem accounted_profile (g : Graphic) : g.profile.accounted = g.size := by
  unfold Profile.accounted
  rw [dependableSize_profile]
  split
  · next out =>
    have out : g.swappedOut = true := out
    rw [size_eq_zero_of_out out]
    rfl
  · rfl

/-! ## What a content shows -/

/-- The content shows a payload: it is in memory, or what is behind the content restores it; and a
link that is behind it stands for the payload even while that is in memory. -/
structure Shown (c : Content) (p : Payload) : Prop where
  fits : p.Fits
  kind : c.kind = p.kind
  external : c.external = none
  inside : c.swappedOut = false → c.payload = some p
  outside : c.swappedOut = true → c.payload = none ∧ ∀ id, c.recover id = .ok p
  linked : ∀ link page, c.backing = .link link page → link.payload page = p

/-- There is nothing to show. -/
structure Blank (c : Content) : Prop where
  payload : c.payload = none
  inside : c.swappedOut = false
  backing : c.backing = .none

/-- The content shows the payload, or nothing if there is none. -/
def Shows (c : Content) : Option Payload → Prop
  | some p => c.Shown p
  | none => c.Blank

theorem blank_empty (now : Moment) : (empty now).Blank := ⟨rfl, rfl, rfl⟩

theorem blank_ofExternal (url : String) (now : Moment) : (ofExternal url now).Blank :=
  ⟨rfl, rfl, rfl⟩

theorem shown_ofPayload (h : p.Fits) (now : Moment) : (ofPayload p now).Shown p where
  fits := h
  kind := rfl
  external := rfl
  inside _ := rfl
  outside out := nomatch out
  linked _ _ backing := nomatch backing

/-- A link shows the payload that it will be materialised as. -/
theorem shown_ofLink {link : Link} {page : Option Int32} (h : (link.payload page).Fits)
    (now : Moment) : (ofLink link page now).Shown (link.payload page) where
  fits := h
  kind := (link.kind_payload page).symm
  external := rfl
  inside inside := nomatch inside
  outside _ := ⟨rfl, fun _ => rfl⟩
  linked _ _ backing := by cases backing; rfl

theorem shown_replace (h : p.Fits) (now : Moment) (c : Content) : (c.replace p now).Shown p where
  fits := h
  kind := rfl
  external := rfl
  inside _ := rfl
  outside out := nomatch out
  linked _ _ backing := nomatch backing

/-! When it was used last is no part of what a content shows. -/

theorem Shown.touch (h : c.Shown p) (lastUsed : Moment) :
    ({ c with lastUsed := lastUsed } : Content).Shown p :=
  ⟨h.fits, h.kind, h.external, h.inside, h.outside, h.linked⟩

theorem Blank.touch (h : c.Blank) (lastUsed : Moment) :
    ({ c with lastUsed := lastUsed } : Content).Blank :=
  ⟨h.payload, h.inside, h.backing⟩

theorem Shows.touch {gift : Option Payload} (h : c.Shows gift) (lastUsed : Moment) :
    ({ c with lastUsed := lastUsed } : Content).Shows gift := by
  cases gift with
  | some p => exact Shown.touch h lastUsed
  | none => exact Blank.touch h lastUsed

/-- Taking a payload out of memory stores what has to be stored. -/
theorem Shown.swapOut (h : c.Shown p) (out : c.swapOut canStore = .ok (some (c', n))) :
    c'.Shown p := by
  obtain ⟨q, payload, inside, -, ⟨link, page, backing, rfl⟩ | ⟨-, rfl⟩⟩ := swapOut_ok out
  -- nothing is stored behind a link, which stands for the payload already
  · refine ⟨h.fits, h.kind, h.external, fun inside => (nomatch inside),
      fun _ => ⟨rfl, fun id => ?_⟩, h.linked⟩
    unfold recover
    rw [backing]
    exact congrArg _ (h.linked link page backing)
  · obtain rfl : p = q := by
      rw [h.inside inside] at payload
      exact Option.some.inj payload
    refine ⟨h.fits, h.kind, h.external, fun inside => (nomatch inside),
      fun _ => ⟨rfl, fun id => ?_⟩, fun _ _ backing => (nomatch backing)⟩
    show (SwapFile.write p).read.mapError Fault.undecodable = .ok p
    rw [SwapFile.read_write p h.fits]
    rfl

/-- Bringing a payload back into memory forgets a swap file, but not a link. -/
theorem Shown.restore (h : c.Shown p) (back : c.restore id now = .ok (some (c', n))) :
    c'.Shown p := by
  obtain ⟨q, out, recovered, -, payload, inside, kind, external, backing⟩ := restore_ok back
  obtain rfl : p = q := by
    rw [(h.outside out).2 id] at recovered
    exact Except.ok.inj recovered
  refine ⟨h.fits, kind, external.trans h.external, fun _ => payload, ?_, ?_⟩
  · intro out
    rw [inside] at out
    cases out
  · intro link page linked
    rcases backing with none | ⟨same, -⟩
    · rw [none] at linked
      cases linked
    · exact h.linked link page (same ▸ linked)

/-- What shows a payload comes back with exactly that payload, if it is out of memory at all. -/
theorem Shown.restore_eq (h : c.Shown p) (out : c.swappedOut = true) (id : Nat) (now : Moment) :
    ∃ c', c.restore id now = .ok (some (c', p.size)) ∧ c'.payload = some p := by
  unfold Content.restore
  rw [if_pos out, (h.outside out).2 id]
  exact ⟨_, rfl, rfl⟩

/-- Nothing is taken out of memory where there is nothing. -/
theorem Blank.swapOut (h : c.Blank) : c.swapOut canStore = .ok none := by
  unfold Content.swapOut
  rw [h.payload]

theorem restore_of_inside (inside : c.swappedOut = false) (id : Nat) (now : Moment) :
    c.restore id now = .ok none := by
  unfold restore
  rw [inside]
  rfl

/-- A content goes on showing what it shows when it is swapped out. -/
theorem Shows.swapOut {gift : Option Payload} (h : c.Shows gift)
    (out : c.swapOut canStore = .ok (some (c', n))) : c'.Shows gift := by
  cases gift with
  | some p => exact Shown.swapOut h out
  | none => rw [Blank.swapOut h] at out; cases out

/-- So it does when it is swapped in. -/
theorem Shows.restore {gift : Option Payload} (h : c.Shows gift)
    (back : c.restore id now = .ok (some (c', n))) : c'.Shows gift := by
  cases gift with
  | some p => exact Shown.restore h back
  | none => rw [restore_of_inside (Blank.inside h)] at back; cases back

/-- A copy shows what the content shows, in memory or out. -/
theorem Shows.duplicate {gift : Option Payload} (h : c.Shows gift)
    (copied : c.duplicate now = .ok c') : c'.Shows gift := by
  unfold Content.duplicate at copied
  cases gift with
  | none =>
    rw [h.payload, h.backing] at copied
    cases external : c.external with
    | some url => rw [external] at copied; cases copied; exact blank_ofExternal url now
    | none => rw [external] at copied; cases copied; exact blank_empty now
  | some p =>
    rw [h.external] at copied
    cases out : c.swappedOut with
    | false =>
      rw [h.inside out] at copied
      cases copied
      exact shown_ofPayload h.fits now
    | true =>
      obtain ⟨payload, recovers⟩ := h.outside out
      -- the id shows up in faults only, so any one will do
      have recovered := recovers 0
      rw [payload] at copied
      unfold recover at recovered
      cases backing : c.backing with
      | none => rw [backing] at recovered; cases recovered
      | link link page =>
        rw [backing] at copied recovered
        cases copied
        cases recovered
        exact shown_ofLink h.fits now
      | file f =>
        rw [backing] at copied recovered
        dsimp only at copied recovered
        rw [recovered] at copied
        cases copied
        exact shown_ofPayload h.fits now

end Content

end GraphicCache
