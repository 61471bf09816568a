import FixtureLab.Catalog.Model
import FixtureLab.Registry.Basic

/-!
This module contains the scenario catalog: the sample fixtures and how they are built from each
other. Groups list their leaves first, because a builder can only use fixtures that are registered
already.
-/

namespace FixtureLab
namespace Catalog

open FixtureLab.Graph (Edge)
open Registry (Error Build)

variable {σ : Type}

abbrev Entry (σ : Type) := String × Build σ Fixture Fixture

section

variable {α : Type}

def friends (edge : Edge) (id : String) : Build σ Fixture Friends :=
  Build.fetchAs Fixture.friends? "Friends" edge id

def base (edge : Edge) (id : String) : Build σ Fixture Base :=
  Build.fetchAs Fixture.base? "Base" edge id

def device (edge : Edge) (id : String) : Build σ Fixture Device :=
  Build.fetchAs Fixture.device? "Device" edge id

def android (edge : Edge) (id : String) : Build σ Fixture Android :=
  Build.fetchAs Fixture.android? "Android" edge id

def ios (edge : Edge) (id : String) : Build σ Fixture Ios :=
  Build.fetchAs Fixture.ios? "Ios" edge id

def hairStyle (edge : Edge) (id : String) : Build σ Fixture HairStyle :=
  Build.fetchAs Fixture.hairStyle? "HairStyle" edge id

end

def androidEntries : List (Entry σ) :=
  [("Test01Android1",
    return .android { manufacturer := some "google", model := some "pixel5" })]

def iosEntries : List (Entry σ) :=
  [("Test01Ios1",
    return .ios { manufacturer := some "apple", model := some "iphone12" })]

def hairStyleEntries : List (Entry σ) :=
  [("Test01HairStyle1", return .hairStyle {})]

def friendsEntries : List (Entry σ) :=
  [("Test01Friends1",
    return .friends { id := some 0, name := some "Colon Salazar" }),
  ("Test01Friends2",
    return .friends { id := some 1, name := some "French\nMcneil" }),
  ("Test02Friends2", do
    let data ← friends .parent "Test01Friends2"
    return .friends { data with name := some "French\nMcneil2" }),
  ("Test04Friends3",
    return .friends { id := some 2, name := some "Nestor Salinas" })]

def deviceEntries : List (Entry σ) :=
  [("Test01Device1", do
    let android ← android .child "Test01Android1"
    let ios ← ios .child "Test01Ios1"
    return .device { android := some android, ios := some ios }),
  ("Test05Device1", return .device {})]

def baseEntries : List (Entry σ) :=
  [("Test01Base1", do
    let hairStyle ← hairStyle .child "Test01HairStyle1"
    let friend1 ← friends .child "Test01Friends1"
    let friend2 ← friends .child "Test01Friends2"
    let device ← device .child "Test01Device1"
    return .base {
      id := some "5973782bdb9a930533b05cb2"
      isActive := some true
      age := some 32
      name := some "Logan Keller"
      gender := some "male"
      hairStyle := some hairStyle
      salary := some 9007199254740991
      friends := some [friend1, friend2]
      groups := some [some 1, some 2, some 3]
      rooms := some [some "1-1", some "1-2"]
      device := some device }),
  ("Test02Base1", do
    let data ← base .parent "Test01Base1"
    let replacement ← friends .child "Test02Friends2"
    return .base {
      data with
      isActive := some false
      friends := data.friends.map (·.set 1 replacement)
      groups := some [some 1, some 2, some 3, some 4]
      qualifications := some [] }),
  ("Test03Base1", do
    let data ← base .parent "Test02Base1"
    return .base { data with qualifications := some [] }),
  ("Test04Base1", do
    let data ← base .parent "Test01Base1"
    let friend1 ← friends .child "Test01Friends1"
    let friend2 ← friends .child "Test01Friends2"
    let friend3 ← friends .child "Test04Friends3"
    return .base {
      data with
      friends := some [friend1, friend2, friend3]
      qualifications := some [] }),
  ("Test05Base1", do
    let device ← device .child "Test05Device1"
    return .base { id := some "05", device := some device }),
  ("Test06Base1", return .base { id := some "06", qualifications := some [] })]

inductive Group where
  | android
  | ios
  | hairStyle
  | friends
  | device
  | base
  | catalog
deriving DecidableEq, Repr

namespace Group

def ofName? : String → Option Group
  | "android" => some .android
  | "ios" => some .ios
  | "hair_style" => some .hairStyle
  | "friends" => some .friends
  | "device" => some .device
  | "base" => some .base
  | "catalog" => some .catalog
  | _ => none

def entries : Group → List (Entry σ)
  | .android => androidEntries
  | .ios => iosEntries
  | .hairStyle => hairStyleEntries
  | .friends => friendsEntries
  | .device => deviceEntries
  | .base => baseEntries
  | .catalog =>
    androidEntries ++ iosEntries ++ hairStyleEntries ++ friendsEntries ++ deviceEntries ++
      baseEntries

end Group

def registerAll (r : Registry σ Fixture) : List (Entry σ) → Except Error Unit × Registry σ Fixture
  | [] => (.ok (), r)
  | (id, builder) :: rest =>
    match r.register id builder with
    | (.ok _, r) => registerAll r rest
    | (.error e, r) => (.error e, r)

def register (r : Registry σ Fixture) (group : Group) :
    Except Error Unit × Registry σ Fixture :=
  registerAll r group.entries

def catalog (policy : DuplicatePolicy) : Except Error Unit × Registry Unit Fixture :=
  register { policy, shared := () } .catalog

def testData : List (String × String) :=
  [("test01.json", "Test01Base1"),
    ("test02.json", "Test02Base1"),
    ("test03.json", "Test03Base1"),
    ("test04.json", "Test04Base1"),
    ("test05.json", "Test05Base1"),
    ("test06.json", "Test06Base1")]

end Catalog
end FixtureLab
