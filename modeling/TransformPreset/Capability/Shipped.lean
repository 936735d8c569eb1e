import TransformPreset.Capability.Table

/-!
# The shipped tables

The tables that a preset is resolved against unless a host brings its own. Versions are given in
hundredths.
-/

namespace TransformPreset

/-- A table whose versions are given in hundredths. -/
def ofHundredths (table : Entries (Entries Nat)) : CapabilityTable :=
  table.map fun (name, versions) =>
    (name, versions.map fun (environment, n) =>
      (environment, .float (Binary64.ofDecimal false n (-2))))

/-- The capabilities that a transformation stands in for, in hundredths. -/
def shippedPlugins : Entries (Entries Nat) :=
  [
    ("check-es2015-constants",
      [("chrome", 4900), ("edge", 1400), ("firefox", 5100), ("safari", 1000), ("node", 600),
        ("ios", 1000), ("opera", 3600)]),
    ("transform-es2015-arrow-functions",
      [("chrome", 4700), ("edge", 1300), ("firefox", 4500), ("safari", 1000), ("node", 600),
        ("ios", 1000), ("opera", 3400)]),
    ("transform-es2015-block-scoped-functions",
      [("chrome", 4100), ("edge", 1200), ("firefox", 4600), ("safari", 1000), ("node", 400),
        ("ie", 1100), ("ios", 1000), ("opera", 2800)]),
    ("transform-es2015-block-scoping",
      [("chrome", 4900), ("edge", 1400), ("firefox", 5100), ("safari", 1000), ("node", 600),
        ("ios", 1000), ("opera", 3600)]),
    ("transform-es2015-classes",
      [("chrome", 4600), ("edge", 1300), ("firefox", 4500), ("safari", 1000), ("node", 500),
        ("ios", 1000), ("opera", 3300)]),
    ("transform-es2015-computed-properties",
      [("chrome", 4400), ("edge", 1200), ("firefox", 3400), ("safari", 710), ("node", 400),
        ("ios", 800), ("opera", 3100)]),
    ("transform-es2015-destructuring",
      [("chrome", 5100), ("edge", 1500), ("firefox", 5300), ("safari", 1000), ("node", 650),
        ("ios", 1000), ("opera", 3800)]),
    ("transform-es2015-duplicate-keys",
      [("chrome", 4200), ("edge", 1200), ("firefox", 3400), ("safari", 900), ("node", 400),
        ("ios", 900), ("opera", 2900)]),
    ("transform-es2015-for-of",
      [("chrome", 5100), ("edge", 1500), ("firefox", 5300), ("safari", 1000), ("node", 650),
        ("ios", 1000), ("opera", 3800)]),
    ("transform-es2015-function-name",
      [("chrome", 5100), ("firefox", 5300), ("safari", 1000), ("node", 650), ("ios", 1000),
        ("opera", 3800)]),
    ("transform-es2015-literals",
      [("chrome", 4400), ("edge", 1200), ("firefox", 5300), ("safari", 900), ("node", 400),
        ("ios", 900), ("opera", 3100)]),
    ("transform-es2015-object-super",
      [("chrome", 4600), ("edge", 1300), ("firefox", 4500), ("safari", 1000), ("node", 500),
        ("ios", 1000), ("opera", 3300)]),
    ("transform-es2015-parameters",
      [("chrome", 4900), ("edge", 1400), ("firefox", 5300), ("safari", 1000), ("node", 600),
        ("ios", 1000), ("opera", 3600)]),
    ("transform-es2015-shorthand-properties",
      [("chrome", 4300), ("edge", 1200), ("firefox", 3300), ("safari", 900), ("node", 400),
        ("ios", 900), ("opera", 3000)]),
    ("transform-es2015-spread",
      [("chrome", 4600), ("edge", 1300), ("firefox", 3600), ("safari", 1000), ("node", 500),
        ("ios", 1000), ("opera", 3300)]),
    ("transform-es2015-sticky-regex",
      [("chrome", 4900), ("edge", 1300), ("firefox", 300), ("safari", 1000), ("node", 600),
        ("ios", 1000), ("opera", 3600)]),
    ("transform-es2015-template-literals",
      [("chrome", 4100), ("edge", 1300), ("firefox", 3400), ("safari", 900), ("node", 400),
        ("ios", 900), ("opera", 2800)]),
    ("transform-es2015-typeof-symbol",
      [("chrome", 3800), ("edge", 1200), ("firefox", 3600), ("safari", 900), ("node", 12),
        ("ios", 900), ("opera", 2500)]),
    ("transform-es2015-unicode-regex",
      [("chrome", 5000), ("edge", 1300), ("firefox", 4600), ("safari", 1000), ("node", 600),
        ("ios", 1000), ("opera", 3700)]),
    ("transform-regenerator",
      [("chrome", 5000), ("edge", 1300), ("firefox", 5300), ("safari", 1000), ("node", 600),
        ("ios", 1000), ("opera", 3700)]),
    ("transform-exponentiation-operator",
      [("chrome", 5200), ("edge", 1400), ("firefox", 5200), ("safari", 1010), ("node", 700),
        ("ios", 1030), ("opera", 3900)]),
    ("transform-async-to-generator",
      [("chrome", 5500), ("edge", 1500), ("firefox", 5200), ("safari", 1010), ("node", 760),
        ("ios", 1030), ("opera", 4200)]),
    ("syntax-trailing-function-commas",
      [("chrome", 5800), ("edge", 1400), ("firefox", 5200), ("safari", 1000), ("node", 800),
        ("ios", 1000), ("opera", 4500)])
  ]

/-- The capabilities that a polyfill stands in for, in hundredths. -/
def shippedBuiltIns : Entries (Entries Nat) :=
  [
    ("es6.typed.array-buffer",
      [("chrome", 5100), ("edge", 1300), ("firefox", 4800), ("safari", 1000), ("node", 650),
        ("ios", 1000), ("opera", 3800)]),
    ("es6.typed.data-view",
      [("chrome", 500), ("edge", 1200), ("firefox", 1500), ("safari", 510), ("node", 12),
        ("ie", 1000), ("ios", 600), ("opera", 1200)]),
    ("es6.typed.int8-array",
      [("chrome", 5100), ("edge", 1300), ("firefox", 4800), ("safari", 1000), ("node", 650),
        ("ios", 1000), ("opera", 3800)]),
    ("es6.typed.uint8-array",
      [("chrome", 5100), ("edge", 1300), ("firefox", 4800), ("safari", 1000), ("node", 650),
        ("ios", 1000), ("opera", 3800)]),
    ("es6.map",
      [("chrome", 5100), ("edge", 1500), ("firefox", 5300), ("safari", 1000), ("node", 650),
        ("ios", 1000), ("opera", 3800)]),
    ("es6.set",
      [("chrome", 5100), ("edge", 1500), ("firefox", 5300), ("safari", 1000), ("node", 650),
        ("ios", 1000), ("opera", 3800)]),
    ("es6.weak-map",
      [("chrome", 5100), ("edge", 1500), ("firefox", 5300), ("safari", 1000), ("node", 650),
        ("ios", 1000), ("opera", 3800)]),
    ("es6.weak-set",
      [("chrome", 5100), ("edge", 1500), ("firefox", 5300), ("safari", 1000), ("node", 650),
        ("ios", 1000), ("opera", 3800)]),
    ("es6.reflect.apply",
      [("chrome", 4900), ("edge", 1200), ("firefox", 4200), ("safari", 1000), ("node", 600),
        ("ios", 1000), ("opera", 3600)]),
    ("es6.reflect.own-keys",
      [("chrome", 4900), ("edge", 1200), ("firefox", 4200), ("safari", 1000), ("node", 600),
        ("ios", 1000), ("opera", 3600)]),
    ("es6.promise",
      [("chrome", 5100), ("edge", 1300), ("firefox", 4500), ("safari", 1000), ("node", 650),
        ("ios", 1000), ("opera", 3800)]),
    ("es6.symbol",
      [("chrome", 5100), ("firefox", 5100), ("safari", 1000), ("node", 650), ("ios", 1000),
        ("opera", 3800)]),
    ("es6.object.assign",
      [("chrome", 4500), ("edge", 1200), ("firefox", 3400), ("safari", 900), ("node", 400),
        ("ios", 900), ("opera", 3200)]),
    ("es6.object.is",
      [("chrome", 1900), ("edge", 1200), ("firefox", 2200), ("safari", 900), ("node", 12),
        ("ios", 900), ("opera", 1500)]),
    ("es6.object.set-prototype-of",
      [("chrome", 3400), ("edge", 1200), ("firefox", 3100), ("safari", 900), ("node", 12),
        ("ie", 1100), ("ios", 900), ("opera", 2100)]),
    ("es6.function.name",
      [("chrome", 500), ("edge", 1400), ("firefox", 200), ("safari", 400), ("node", 12),
        ("ios", 600), ("opera", 1050)]),
    ("es6.string.includes",
      [("chrome", 4100), ("edge", 1200), ("firefox", 4000), ("safari", 900), ("node", 400),
        ("ios", 900), ("opera", 2800)]),
    ("es6.string.starts-with",
      [("chrome", 4100), ("edge", 1200), ("firefox", 2900), ("safari", 900), ("node", 400),
        ("ios", 900), ("opera", 2800)]),
    ("es6.string.ends-with",
      [("chrome", 4100), ("edge", 1200), ("firefox", 2900), ("safari", 900), ("node", 400),
        ("ios", 900), ("opera", 2800)]),
    ("es6.string.repeat",
      [("chrome", 4100), ("edge", 1200), ("firefox", 2400), ("safari", 900), ("node", 400),
        ("ios", 900), ("opera", 2800)]),
    ("es6.array.from",
      [("chrome", 5100), ("edge", 1500), ("firefox", 3600), ("safari", 1000), ("node", 650),
        ("ios", 1000), ("opera", 3800)]),
    ("es6.array.of",
      [("chrome", 4500), ("edge", 1200), ("firefox", 2500), ("safari", 900), ("node", 400),
        ("ios", 900), ("opera", 3200)]),
    ("es6.array.find",
      [("chrome", 4500), ("edge", 1200), ("firefox", 2500), ("safari", 710), ("node", 400),
        ("ios", 800), ("opera", 3200)]),
    ("es6.array.find-index",
      [("chrome", 4500), ("edge", 1200), ("firefox", 2500), ("safari", 710), ("node", 400),
        ("ios", 800), ("opera", 3200)]),
    ("es6.array.iterator",
      [("chrome", 3800), ("edge", 1200), ("firefox", 2800), ("safari", 710), ("node", 12),
        ("ios", 800), ("opera", 2500)]),
    ("es6.number.is-nan",
      [("chrome", 1900), ("edge", 1200), ("firefox", 1500), ("safari", 900), ("node", 12),
        ("ios", 900), ("opera", 1500)]),
    ("es6.math.sign",
      [("chrome", 3800), ("edge", 1200), ("firefox", 2500), ("safari", 710), ("node", 12),
        ("ios", 800), ("opera", 2500)]),
    ("es6.regexp.flags",
      [("chrome", 4900), ("firefox", 3700), ("safari", 900), ("node", 600), ("ios", 900),
        ("opera", 3600)]),
    ("es7.array.includes",
      [("chrome", 4700), ("edge", 1400), ("firefox", 4300), ("safari", 1000), ("node", 600),
        ("ios", 1000), ("opera", 3400)]),
    ("es7.object.values",
      [("chrome", 5400), ("edge", 1400), ("firefox", 4700), ("safari", 1010), ("node", 700),
        ("ios", 1030), ("opera", 4100)]),
    ("es7.object.entries",
      [("chrome", 5400), ("edge", 1400), ("firefox", 4700), ("safari", 1010), ("node", 700),
        ("ios", 1030), ("opera", 4100)]),
    ("es7.string.pad-start",
      [("chrome", 5700), ("edge", 1500), ("firefox", 4800), ("safari", 1000), ("node", 700),
        ("ios", 1000), ("opera", 4400)]),
    ("es7.string.pad-end",
      [("chrome", 5700), ("edge", 1500), ("firefox", 4800), ("safari", 1000), ("node", 700),
        ("ios", 1000), ("opera", 4400)])
  ]

/-- The chrome version of each electron version. -/
def shippedElectron : Entries Nat :=
  [("1.0", 49), ("1.1", 50), ("1.2", 51), ("1.3", 52), ("1.4", 53), ("1.5", 54), ("1.6", 56),
    ("1.7", 58), ("1.8", 59)]

/-- The transformation of each module type. -/
def shippedModules : Entries String :=
  [("amd", "transform-es2015-modules-amd"),
    ("commonjs", "transform-es2015-modules-commonjs"),
    ("systemjs", "transform-es2015-modules-systemjs"),
    ("umd", "transform-es2015-modules-umd")]

/-- The polyfills that are always included. -/
def shippedDefaultInclude : List String :=
  ["web.timers", "web.immediate", "web.dom.iterable"]

/-- The shipped tables. -/
def shippedTables : CapabilityTables where
  plugins := ofHundredths shippedPlugins
  builtIns := ofHundredths shippedBuiltIns
  electron := shippedElectron.map fun (version, n) =>
    (version, Value.float (Binary64.ofDecimal false n 0))
  modules := shippedModules
  defaultInclude := shippedDefaultInclude

end TransformPreset
