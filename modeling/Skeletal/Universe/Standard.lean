import Skeletal.Universe.Basic

/-!
# Standard types

The types that every program sees without loading them: the primitive types, the common types of
`java.lang` and the interfaces and classes that user types extend most. Each carries what a
subclass has to know of it, its abstract methods and its constructors. Supertypes stand before
their subtypes.
-/

set_option autoImplicit false

namespace Skeletal.Standard

/-! ## Places -/

/-- Place of `boolean`. -/
def boolean : TypeId := 0

/-- Place of `byte`. -/
def byte : TypeId := 1

/-- Place of `char`. -/
def char : TypeId := 2

/-- Place of `short`. -/
def short : TypeId := 3

/-- Place of `int`. -/
def int : TypeId := 4

/-- Place of `long`. -/
def long : TypeId := 5

/-- Place of `float`. -/
def float : TypeId := 6

/-- Place of `double`. -/
def double : TypeId := 7

/-- Place of `void`. -/
def void : TypeId := 8

/-- Place of `java.lang.Object`. -/
def object : TypeId := 9

/-- Place of the type variable `T`. -/
def varT : TypeId := 10

/-- Place of the type variable `E`. -/
def varE : TypeId := 11

/-- Place of the type variable `V`. -/
def varV : TypeId := 12

/-- Place of `java.io.Serializable`. -/
def serializable : TypeId := 13

/-- Place of `java.lang.AutoCloseable`. -/
def autoCloseable : TypeId := 14

/-- Place of `java.lang.CharSequence`. -/
def charSequence : TypeId := 15

/-- Place of `java.lang.Appendable`. -/
def appendable : TypeId := 16

/-- Place of `java.lang.Cloneable`. -/
def cloneable : TypeId := 17

/-- Place of `java.lang.Comparable`. -/
def comparable : TypeId := 18

/-- Place of `java.lang.Iterable`. -/
def iterable : TypeId := 19

/-- Place of `java.lang.Readable`. -/
def readable : TypeId := 20

/-- Place of `java.lang.Runnable`. -/
def runnable : TypeId := 21

/-- Place of `java.io.Closeable`. -/
def closeable : TypeId := 22

/-- Place of `java.io.Flushable`. -/
def flushable : TypeId := 23

/-- Place of `java.util.Iterator`. -/
def iterator : TypeId := 24

/-- Place of `java.util.Comparator`. -/
def comparator : TypeId := 25

/-- Place of `java.util.concurrent.Callable`. -/
def callable : TypeId := 26

/-- Place of `java.lang.annotation.Annotation`. -/
def annotationInterface : TypeId := 27

/-- Place of `java.lang.Class`. -/
def classObject : TypeId := 35

/-- Place of `java.lang.String`. -/
def string : TypeId := 42

/-- Place of `java.lang.CloneNotSupportedException`. -/
def cloneNotSupported : TypeId := 53

/-- Place of `java.lang.Exception`. -/
def exception : TypeId := 55

/-- Place of `java.lang.InterruptedException`. -/
def interrupted : TypeId := 61

/-- Place of `java.lang.Throwable`. -/
def throwable : TypeId := 70

/-- Place of `java.io.IOException`. -/
def ioException : TypeId := 72

/-- Place of `java.nio.CharBuffer`. -/
def charBuffer : TypeId := 73

/-- Place of `java.io.InputStream`. -/
def inputStream : TypeId := 74

/-- Place of `java.io.OutputStream`. -/
def outputStream : TypeId := 75

/-- Place of `java.lang.Enum`. -/
def enum : TypeId := 76

/-- Place of `java.lang.Number`. -/
def number : TypeId := 77

/-- Place of `java.lang.Process`. -/
def process : TypeId := 78

/-- Place of `java.lang.ClassLoader`. -/
def classLoader : TypeId := 79

/-- Place of `java.lang.Thread`. -/
def thread : TypeId := 80

/-- Place of `java.lang.ThreadLocal`. -/
def threadLocal : TypeId := 81

/-- Place of `java.lang.Runtime`. -/
def runtime : TypeId := 82

/-! ## Shapes of entries -/

/-- Primitive type. -/
def primitiveType (name : String) : Descriptor :=
  { name, canonical := name, kind := .primitive,
    modifiers := ["public", "abstract", "final"], binary := some name }

/-- Type variable of a generic standard type; it is written as its erasure. -/
def variableType (name : String) : Descriptor :=
  { name, canonical := "java.lang.Object", kind := .variable }

/-- Named type of a package. -/
def packaged (package name : String) (kind : TypeKind) (modifiers : List String) : Descriptor :=
  let canonical := package ++ "." ++ name
  { name, canonical, kind, package, modifiers, binary := some canonical }

/-- Method with the given modifiers. -/
def method (owner : TypeId) (name : String) (result : TypeId) (parameters : List TypeId)
    (exceptions : List TypeId) (modifiers : List String) : Member :=
  { name, kind := .method, modifiers, parameters, exceptions, result := some result,
    declaring := some owner }

/-- Public abstract method. -/
def abstractMethod (owner : TypeId) (name : String) (result : TypeId)
    (parameters : List TypeId) (exceptions : List TypeId) : Member :=
  method owner name result parameters exceptions ["public", "abstract"]

/-- Constructor with the given modifiers. -/
def constructor (owner : TypeId) (name : String) (parameters : List TypeId)
    (modifiers : List String) : Member :=
  { name, kind := .constructor, modifiers, parameters, declaring := some owner }

/-- Modifiers of interfaces and annotations. -/
def interfaceModifiers : List String := ["public", "abstract", "interface"]

/-- Generic interface with its type parameters and methods. -/
def genericInterface (package name : String) (parameters : List String)
    (methods : List Member) : Descriptor :=
  { packaged package name .interfaceType interfaceModifiers with
    typeParameters := parameters, methods }

/-- Interface with its superinterfaces and methods. -/
def interfaceType (package name : String) (interfaces : List TypeId)
    (methods : List Member) : Descriptor :=
  { packaged package name .interfaceType interfaceModifiers with interfaces, methods }

/-- Interface of which only the name is known. -/
def unknownInterface (package name : String) : Descriptor :=
  { packaged package name .interfaceType interfaceModifiers with membersUnknown := true }

/-- Annotation of `java.lang`; the members of annotations are not modelled. -/
def annotationType (name : String) : Descriptor :=
  { packaged "java.lang" name .annotationType interfaceModifiers with membersUnknown := true }

/-- Class with its interfaces, constructors and methods. -/
def standardClass (package name : String) (modifiers : List String) (interfaces : List TypeId)
    (constructors methods : List Member) : Descriptor :=
  { packaged package name .classType modifiers with
    superclass := some object, interfaces, constructors, methods }

/-- Final class of `java.lang`. -/
def finalClass (name : String) : Descriptor :=
  standardClass "java.lang" name ["public", "final"] [] [] []

/-- Abstract class of which only the name is known. -/
def unknownClass (package name : String) : Descriptor :=
  { standardClass package name ["public", "abstract"] [] [] [] with membersUnknown := true }

/-- Throwable class at a place, with its two constructors. -/
def throwableClass (package name : String) (place : TypeId) : Descriptor :=
  standardClass package name ["public"] []
    [constructor place name [] ["public"], constructor place name [string] ["public"]] []

/-! ## Entries -/

/-- Root of all classes. -/
def rootClass : Descriptor :=
  { packaged "java.lang" "Object" .classType ["public"] with
    constructors := [constructor object "Object" [] ["public"]]
    methods :=
      [method object "getClass" classObject [] [] ["public", "final", "native"],
        method object "hashCode" int [] [] ["public", "native"],
        method object "equals" boolean [object] [] ["public"],
        method object "clone" object [] [cloneNotSupported] ["protected", "native"],
        method object "toString" string [] [] ["public"],
        method object "notify" void [] [] ["public", "final", "native"],
        method object "notifyAll" void [] [] ["public", "final", "native"],
        method object "wait" void [] [interrupted] ["public", "final"],
        method object "wait" void [long] [interrupted] ["public", "final", "native"],
        method object "wait" void [long, int] [interrupted] ["public", "final"],
        method object "finalize" void [] [throwable] ["protected"]] }

/-- Superclass of all enums. -/
def enumRoot : Descriptor :=
  standardClass "java.lang" "Enum" ["public", "abstract"] [comparable, serializable]
    [constructor enum "Enum" [string, int] ["protected"]]
    [method enum "name" string [] [] ["public", "final"],
      method enum "ordinal" int [] [] ["public", "final"],
      method enum "toString" string [] [] ["public"],
      method enum "equals" boolean [object] [] ["public", "final"],
      method enum "hashCode" int [] [] ["public", "final"],
      method enum "compareTo" int [enum] [] ["public", "final"]]

/-- Names of the primitive types, with the type of no value last. -/
def primitiveNames : List String :=
  ["boolean", "byte", "char", "short", "int", "long", "float", "double", "void"]

/-- Types from the root class on, in the order of their places. -/
def referenceEntries : List Descriptor :=
  [
    rootClass,
    variableType "T",
    variableType "E",
    variableType "V",
    interfaceType "java.io" "Serializable" [] [],
    interfaceType "java.lang" "AutoCloseable" []
      [abstractMethod autoCloseable "close" void [] [exception]],
    interfaceType "java.lang" "CharSequence" []
      [abstractMethod charSequence "length" int [] [],
        abstractMethod charSequence "charAt" char [int] [],
        abstractMethod charSequence "subSequence" charSequence [int, int] []],
    interfaceType "java.lang" "Appendable" []
      [abstractMethod appendable "append" appendable [charSequence] [ioException],
        abstractMethod appendable "append" appendable [charSequence, int, int] [ioException],
        abstractMethod appendable "append" appendable [char] [ioException]],
    interfaceType "java.lang" "Cloneable" [] [],
    genericInterface "java.lang" "Comparable" ["T"]
      [abstractMethod comparable "compareTo" int [varT] []],
    genericInterface "java.lang" "Iterable" ["T"]
      [abstractMethod iterable "iterator" iterator [] []],
    interfaceType "java.lang" "Readable" []
      [abstractMethod readable "read" int [charBuffer] [ioException]],
    interfaceType "java.lang" "Runnable" []
      [abstractMethod runnable "run" void [] []],
    interfaceType "java.io" "Closeable" [autoCloseable]
      [abstractMethod closeable "close" void [] [ioException]],
    interfaceType "java.io" "Flushable" []
      [abstractMethod flushable "flush" void [] [ioException]],
    genericInterface "java.util" "Iterator" ["E"]
      [abstractMethod iterator "hasNext" boolean [] [],
        abstractMethod iterator "next" varE [] []],
    genericInterface "java.util" "Comparator" ["T"]
      [abstractMethod comparator "compare" int [varT, varT] [],
        abstractMethod comparator "equals" boolean [object] []],
    genericInterface "java.util.concurrent" "Callable" ["V"]
      [abstractMethod callable "call" varV [] [exception]],
    unknownInterface "java.lang.annotation" "Annotation",
    annotationType "Deprecated",
    annotationType "FunctionalInterface",
    annotationType "Override",
    annotationType "SuppressWarnings",
    finalClass "Boolean",
    finalClass "Byte",
    finalClass "Character",
    finalClass "Class",
    finalClass "Double",
    finalClass "Float",
    finalClass "Integer",
    finalClass "Long",
    finalClass "Math",
    finalClass "Short",
    finalClass "String",
    finalClass "StringBuffer",
    finalClass "StringBuilder",
    finalClass "System",
    finalClass "Void",
    throwableClass "java.lang" "AbstractMethodError" 47,
    throwableClass "java.lang" "ArithmeticException" 48,
    throwableClass "java.lang" "ArrayIndexOutOfBoundsException" 49,
    throwableClass "java.lang" "AssertionError" 50,
    throwableClass "java.lang" "ClassCastException" 51,
    throwableClass "java.lang" "ClassNotFoundException" 52,
    throwableClass "java.lang" "CloneNotSupportedException" 53,
    throwableClass "java.lang" "Error" 54,
    throwableClass "java.lang" "Exception" 55,
    throwableClass "java.lang" "IllegalAccessException" 56,
    throwableClass "java.lang" "IllegalArgumentException" 57,
    throwableClass "java.lang" "IllegalStateException" 58,
    throwableClass "java.lang" "IndexOutOfBoundsException" 59,
    throwableClass "java.lang" "InstantiationException" 60,
    throwableClass "java.lang" "InterruptedException" 61,
    throwableClass "java.lang" "NoSuchFieldException" 62,
    throwableClass "java.lang" "NoSuchMethodException" 63,
    throwableClass "java.lang" "NullPointerException" 64,
    throwableClass "java.lang" "NumberFormatException" 65,
    throwableClass "java.lang" "ReflectiveOperationException" 66,
    throwableClass "java.lang" "RuntimeException" 67,
    throwableClass "java.lang" "SecurityException" 68,
    throwableClass "java.lang" "StackOverflowError" 69,
    throwableClass "java.lang" "Throwable" 70,
    throwableClass "java.lang" "UnsupportedOperationException" 71,
    throwableClass "java.io" "IOException" ioException,
    unknownClass "java.nio" "CharBuffer",
    standardClass "java.io" "InputStream" ["public", "abstract"] [closeable]
      [constructor inputStream "InputStream" [] ["public"]]
      [abstractMethod inputStream "read" int [] [ioException]],
    standardClass "java.io" "OutputStream" ["public", "abstract"] [closeable, flushable]
      [constructor outputStream "OutputStream" [] ["public"]]
      [abstractMethod outputStream "write" void [int] [ioException]],
    enumRoot,
    standardClass "java.lang" "Number" ["public", "abstract"] [serializable]
      [constructor number "Number" [] ["public"]]
      [abstractMethod number "intValue" int [] [],
        abstractMethod number "longValue" long [] [],
        abstractMethod number "floatValue" float [] [],
        abstractMethod number "doubleValue" double [] []],
    standardClass "java.lang" "Process" ["public", "abstract"] []
      [constructor process "Process" [] ["public"]]
      [abstractMethod process "getOutputStream" outputStream [] [],
        abstractMethod process "getInputStream" inputStream [] [],
        abstractMethod process "getErrorStream" inputStream [] [],
        abstractMethod process "waitFor" int [] [interrupted],
        abstractMethod process "exitValue" int [] [],
        abstractMethod process "destroy" void [] []],
    standardClass "java.lang" "ClassLoader" ["public", "abstract"] []
      [constructor classLoader "ClassLoader" [] ["protected"],
        constructor classLoader "ClassLoader" [classLoader] ["protected"]]
      [],
    standardClass "java.lang" "Thread" ["public"] [runnable]
      [constructor thread "Thread" [] ["public"],
        constructor thread "Thread" [runnable] ["public"],
        constructor thread "Thread" [string] ["public"]]
      [method thread "run" void [] [] ["public"]],
    standardClass "java.lang" "ThreadLocal" ["public"] []
      [constructor threadLocal "ThreadLocal" [] ["public"]]
      [],
    standardClass "java.lang" "Runtime" ["public"] []
      [constructor runtime "Runtime" [] ["private"]]
      []
  ]

/-- All standard types in the order of their places. -/
def entries : List Descriptor :=
  primitiveNames.map primitiveType ++ referenceEntries

end Skeletal.Standard

namespace Skeletal

/-- Universe of the standard types alone. -/
def standard : Universe := ⟨Standard.entries.toArray⟩

end Skeletal

namespace Skeletal.Standard

/-! ## Look-up by name -/

/-- Place of the primitive type of a name. -/
def primitive? (name : String) : Option TypeId :=
  if name ∈ primitiveNames then some (primitiveNames.idxOf name) else none

/-- Whether an entry is found under its canonical name: all but primitives and variables. -/
def isNamed (d : Descriptor) : Bool := d.kind != .primitive && d.kind != .variable

/-- Place of the standard type of a canonical name, primitive types apart. -/
def named? (canonical : String) : Option TypeId :=
  entries.findIdx? fun d => isNamed d && d.canonical == canonical

/-- Place of the type that `java.lang` gives a simple name. -/
def langNamed? (name : String) : Option TypeId :=
  entries.findIdx? fun d => isNamed d && d.package == "java.lang" && d.name == name

/-- Place of a primitive type by name, of a standard type by canonical name, or of a type of
`java.lang` by simple name. -/
def lookup? (name : String) : Option TypeId :=
  (primitive? name).or ((named? name).or (langNamed? name))

/-! ## Agreement of places and entries -/

example :
    [boolean, byte, char, short, int, long, float, double, void, object, serializable,
      autoCloseable, charSequence, appendable, cloneable, comparable, iterable, readable,
      runnable, closeable, flushable, iterator, comparator, callable, annotationInterface, classObject,
      string, cloneNotSupported, exception, interrupted, throwable, ioException, charBuffer,
      inputStream, outputStream, enum, number, process, classLoader, thread, threadLocal, runtime].map
      standard.canonical =
    ["boolean", "byte", "char", "short", "int", "long", "float", "double", "void",
      "java.lang.Object", "java.io.Serializable", "java.lang.AutoCloseable",
      "java.lang.CharSequence", "java.lang.Appendable", "java.lang.Cloneable",
      "java.lang.Comparable", "java.lang.Iterable", "java.lang.Readable", "java.lang.Runnable",
      "java.io.Closeable", "java.io.Flushable", "java.util.Iterator", "java.util.Comparator",
      "java.util.concurrent.Callable", "java.lang.annotation.Annotation", "java.lang.Class",
      "java.lang.String", "java.lang.CloneNotSupportedException", "java.lang.Exception",
      "java.lang.InterruptedException", "java.lang.Throwable", "java.io.IOException",
      "java.nio.CharBuffer", "java.io.InputStream", "java.io.OutputStream", "java.lang.Enum",
      "java.lang.Number", "java.lang.Process", "java.lang.ClassLoader", "java.lang.Thread",
      "java.lang.ThreadLocal", "java.lang.Runtime"] := by
  rfl

end Skeletal.Standard
