import AccelProbe.Backend.Basic
import AccelProbe.Proofs.Program.Reaches

/-!
# Backends over a library that works

The hardware of a machine is what every library on it should find: the devices with their names, and what the elements of a tensor
come to. A backend serves the hardware where each question has the answer that the hardware leads one to expect, whatever happened
before. How the questions are put to the library, and how the places of tensors are called there, is left to the backend.
-/

namespace AccelProbe

/-- The hardware of a machine. -/
structure Hardware where
  /-- The names of the devices, by index. -/
  names : List String
  /-- The mean of the elements of a tensor on the host, by its sizes. -/
  mean : List Nat → Double
  /-- The greatest of the elements. -/
  greatest : List Nat → Double
  /-- The least of the elements. -/
  least : List Nat → Double

/-- The number of the devices. -/
def Hardware.count (g : Hardware) : Nat := g.names.length

namespace Value

/-- Sizes as values. -/
def ofSizes (sizes : List Nat) : List Value := sizes.map fun (n : Nat) => .int n

/-- A tensor with these sizes in the place of this name. -/
def tensorAt (sizes : List Nat) (place text : String) : Value := .tensor (ofSizes sizes) (.str place) text

/-- Whether a value is a tensor with these sizes in the place of this name, whatever it prints as. -/
def LiesAt (v : Value) (sizes : List Nat) (place : String) : Prop := ∃ text, v = tensorAt sizes place text

/-- Whether sizes have so few digits that they can be written. -/
def sizesFit (sizes : List Nat) : Bool := sizes.all fun (n : Nat) => Digits.fits n

/-- Some of the sizes that fit fit, in any order and as often as they come. -/
theorem sizesFit_of_subset {sizes some : List Nat} (h : sizesFit sizes = true) (hs : some ⊆ sizes) : sizesFit some = true :=
  List.all_eq_true.mpr fun n hn => List.all_eq_true.mp h n (hs hn)

/-- Sizes that fit are written with the sign of multiplication between them. -/
theorem toDimensions_ofSizes {sizes : List Nat} (h : sizesFit sizes = true) :
    toDimensions (ofSizes sizes) = .ok (String.intercalate "x" (sizes.map natText)) := by
  have hw : ∀ v ∈ ofSizes sizes, v.isWritable = true := by
    intro v hv
    obtain ⟨n, hn, rfl⟩ := List.mem_map.mp hv
    rw [isWritable_int]
    exact List.all_eq_true.mp h n hn
  have ht : (ofSizes sizes).map display = sizes.map natText := by
    rw [ofSizes, List.map_map]
    refine List.map_congr_left ?_
    intro n _
    exact display_int n
  rw [toDimensions_of_isWritable hw, dimensions, ht]

/-- Sizes of which one does not fit cannot be written. -/
theorem toDimensions_ofSizes_error {sizes : List Nat} (h : sizesFit sizes = false) :
    toDimensions (ofSizes sizes) = .error .integerTooLong := by
  have hm : (ofSizes sizes).mapM toText = .error .integerTooLong := by
    induction sizes with
    | nil => cases h
    | cons n sizes ih =>
      rw [ofSizes, List.map_cons, List.mapM_cons]
      cases hn : Digits.fits n with
      | false =>
        rw [toText_int_of_not_fits hn]
        rfl
      | true =>
        have hrest : sizesFit sizes = false := by
          change (Digits.fits n && sizesFit sizes) = false at h
          rwa [hn, Bool.true_and] at h
        have hmore : (sizes.map fun (m : Nat) => int m).mapM toText = .error .integerTooLong := ih hrest
        rw [toText_int_of_fits hn, hmore]
        rfl
  rw [toDimensions, hm]
  rfl

end Value

open Value Program

/-- Whether a backend in a world serves this hardware. The library has this version; tensors are made in the place called `host` and
moved, for this index, to the one called `device`. An index with too many digits to be written may be refused by the backend. -/
structure Backend.Serves {Call : Type} (b : Backend Call) (w : World Call) (g : Hardware) (version : String) (index : Int)
    (host device : String) : Prop where
  /-- The sink takes every line. -/
  takes : w.TakesAll
  /-- The version is that of the library. -/
  version : (b.perform .version).Gives w (· = .str version)
  /-- An accelerator can be used where there is a device. -/
  available : (b.perform .isAvailable).Gives w (· = .bool (decide (0 < g.count)))
  /-- All devices are counted. -/
  counted : (b.perform .deviceCount).Gives w (· = .int g.count)
  /-- A new tensor lies on the host. -/
  made : ∀ sizes, sizesFit sizes = true → (b.perform (.randomTensor (.tuple (ofSizes sizes)))).Gives w (·.LiesAt sizes host)
  /-- A tensor that is moved lies on the device. -/
  moved : ∀ sizes tensor, sizesFit sizes = true → tensor.LiesAt sizes host →
    (b.perform (.toAccelerator tensor (.int index))).Ends w fun r =>
      (∃ v, r = .ok v ∧ v.LiesAt sizes device) ∨ (Digits.fits index = false ∧ r = .error (.value .integerTooLong))
  /-- A matrix on the device is multiplied there. -/
  multiplied : ∀ n m matrix, sizesFit [n, m] = true → matrix.LiesAt [n, m] device →
    (b.perform (.matmulTransposed matrix)).Gives w (·.LiesAt [n, n] device)
  /-- A tensor on the device is copied to the host. -/
  copied : ∀ sizes tensor, sizesFit sizes = true → tensor.LiesAt sizes device →
    (b.perform (.toHost tensor)).Gives w (·.LiesAt sizes host)
  /-- A tensor prints as its text. -/
  printed : ∀ sizes place text, (b.perform (.formatTensor (tensorAt sizes place text))).Gives w (· = .str text)
  /-- The library tells how it was built. -/
  built : (b.perform .buildInfo).Gives w fun v => ∃ entries, v = .dictionary entries
  /-- The devices are called by their names, in their order. -/
  named : (b.perform .deviceNames).Gives w (· = .list (g.names.map .str))

/-- Whether the statistics that a backend gives of a tensor with these sizes on the host are what its elements come to. -/
def Backend.Measures {Call : Type} (b : Backend Call) (w : World Call) (g : Hardware) (sizes : List Nat) (host : String) : Prop :=
  ∀ tensor : Value, tensor.LiesAt sizes host → (b.perform (.statistics tensor)).Gives w
    (· = .dictionary [("Mean", .float (g.mean sizes)), ("Max", .float (g.greatest sizes)), ("Min", .float (g.least sizes))])

/-- A tensor prints as its text, where the library has nothing of its own to say. -/
theorem Backend.gives_printed {Call : Type} (w : World Call) (sizes : List Nat) (place text : String) :
    (ofValue (Backend.printed (tensorAt sizes place text)) : Program Call Value).Gives w (· = .str text) := by
  have hw : (tensorAt sizes place text).isWritable = true := by simp [tensorAt, isWritable, hasShortIntegers, depth, depthLimit]
  have ht : (tensorAt sizes place text).toText = .ok text := toText_eq_ok_iff.mpr ⟨hw, rfl⟩
  refine .ofValue (a := .str text) ?_ rfl
  rw [Backend.printed, ht]
  rfl

/-- Where there is no device, the answer to the question for an accelerator counts as false. -/
theorem Hardware.isTruthy_available_of_zero {g : Hardware} (h : g.count = 0) :
    (Value.bool (decide (0 < g.count))).isTruthy = false := by
  simp [isTruthy, h]

theorem Hardware.isTruthy_available_of_ne {g : Hardware} (h : g.count ≠ 0) :
    (Value.bool (decide (0 < g.count))).isTruthy = true := by
  simpa [isTruthy] using Nat.pos_of_ne_zero h

/-- An index that can be written is one that tensors are moved to. -/
theorem Backend.Serves.moved_of_fits {Call : Type} {b : Backend Call} {w : World Call} {g : Hardware} {version : String}
    {index : Int} {host device : String} (hs : b.Serves w g version index host device) (hi : Digits.fits index = true)
    {sizes : List Nat} {tensor : Value} (hsizes : sizesFit sizes = true) (ht : tensor.LiesAt sizes host) :
    (b.perform (.toAccelerator tensor (.int index))).Gives w (·.LiesAt sizes device) := by
  intro h
  rcases hs.moved sizes tensor hsizes ht h with hv | ⟨hn, -⟩
  · exact hv
  · exact absurd (hi.symm.trans hn) nofun

end AccelProbe
