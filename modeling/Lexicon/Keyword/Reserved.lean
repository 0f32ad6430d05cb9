import Lexicon.Keyword.Group
import Lexicon.Kind.Category
import Lexicon.Spelling.Registry

/-!
# Reserved keywords

Words that are keywords wherever they stand, with their synonyms in a second script. A few have
none.
-/

namespace Lexicon.Keyword

/-- The reserved keywords, in the order of their kinds. -/
def reserved : Registry KeywordGroup where
  label := "reserved keywords"
  block := Category.reservedKeyword.bounds
  entries := [
    ⟨.boolKeyword, "bool", ["布"], .predefinedType⟩,
    ⟨.byteKeyword, "byte", ["字节"], .predefinedType⟩,
    ⟨.sByteKeyword, "sbyte", ["符字节"], .predefinedType⟩,
    ⟨.shortKeyword, "short", ["短"], .predefinedType⟩,
    ⟨.uShortKeyword, "ushort", ["无短"], .predefinedType⟩,
    ⟨.intKeyword, "int", ["整"], .predefinedType⟩,
    ⟨.uIntKeyword, "uint", ["无整"], .predefinedType⟩,
    ⟨.longKeyword, "long", ["长"], .predefinedType⟩,
    ⟨.uLongKeyword, "ulong", ["无长"], .predefinedType⟩,
    ⟨.doubleKeyword, "double", ["双"], .predefinedType⟩,
    ⟨.floatKeyword, "float", ["浮"], .predefinedType⟩,
    ⟨.decimalKeyword, "decimal", ["十浮"], .predefinedType⟩,
    ⟨.stringKeyword, "string", ["字符串"], .predefinedType⟩,
    ⟨.charKeyword, "char", ["字符"], .predefinedType⟩,
    ⟨.voidKeyword, "void", ["无"], .predefinedType⟩,
    ⟨.objectKeyword, "object", ["对象"], .predefinedType⟩,
    ⟨.typeOfKeyword, "typeof", ["类型"], .expression⟩,
    ⟨.sizeOfKeyword, "sizeof", ["大小"], .expression⟩,
    ⟨.nullKeyword, "null", ["空"], .literal⟩,
    ⟨.trueKeyword, "true", ["真"], .literal⟩,
    ⟨.falseKeyword, "false", ["假"], .literal⟩,
    ⟨.ifKeyword, "if", ["若"], .controlFlow⟩,
    ⟨.elseKeyword, "else", ["否则"], .controlFlow⟩,
    ⟨.whileKeyword, "while", ["当"], .controlFlow⟩,
    ⟨.forKeyword, "for", ["对于"], .controlFlow⟩,
    ⟨.forEachKeyword, "foreach", ["对于每"], .controlFlow⟩,
    ⟨.doKeyword, "do", ["做"], .controlFlow⟩,
    ⟨.switchKeyword, "switch", ["开关"], .controlFlow⟩,
    ⟨.caseKeyword, "case", ["情形"], .controlFlow⟩,
    ⟨.defaultKeyword, "default", ["默认"], .controlFlow⟩,
    ⟨.tryKeyword, "try", ["试"], .controlFlow⟩,
    ⟨.catchKeyword, "catch", ["接"], .controlFlow⟩,
    ⟨.finallyKeyword, "finally", ["最后"], .controlFlow⟩,
    ⟨.lockKeyword, "lock", ["锁"], .controlFlow⟩,
    ⟨.gotoKeyword, "goto", ["转至"], .controlFlow⟩,
    ⟨.breakKeyword, "break", ["断"], .controlFlow⟩,
    ⟨.continueKeyword, "continue", ["继"], .controlFlow⟩,
    ⟨.returnKeyword, "return", ["返回"], .controlFlow⟩,
    ⟨.throwKeyword, "throw", ["丢"], .controlFlow⟩,
    ⟨.publicKeyword, "public", ["公"], .modifier⟩,
    ⟨.privateKeyword, "private", ["私"], .modifier⟩,
    ⟨.internalKeyword, "internal", ["内"], .modifier⟩,
    ⟨.protectedKeyword, "protected", ["护"], .modifier⟩,
    ⟨.staticKeyword, "static", ["静"], .modifier⟩,
    ⟨.readOnlyKeyword, "readonly", ["只读"], .modifier⟩,
    ⟨.sealedKeyword, "sealed", ["密封"], .modifier⟩,
    ⟨.constKeyword, "const", ["常"], .modifier⟩,
    ⟨.fixedKeyword, "fixed", ["固定"], .modifier⟩,
    ⟨.stackAllocKeyword, "stackalloc", ["栈分配"], .expression⟩,
    ⟨.volatileKeyword, "volatile", ["易变"], .modifier⟩,
    ⟨.newKeyword, "new", ["新"], .expression⟩,
    ⟨.overrideKeyword, "override", ["取代"], .modifier⟩,
    ⟨.abstractKeyword, "abstract", ["抽象"], .modifier⟩,
    ⟨.virtualKeyword, "virtual", ["虚"], .modifier⟩,
    ⟨.eventKeyword, "event", ["事件"], .declaration⟩,
    ⟨.externKeyword, "extern", ["外"], .modifier⟩,
    ⟨.refKeyword, "ref", ["引"], .parameter⟩,
    ⟨.outKeyword, "out", ["出"], .parameter⟩,
    ⟨.inKeyword, "in", ["入", "于"], .parameter⟩,
    ⟨.isKeyword, "is", ["是"], .operator⟩,
    ⟨.asKeyword, "as", ["作为"], .operator⟩,
    ⟨.paramsKeyword, "params", ["变参"], .parameter⟩,
    ⟨.argListKeyword, "__arglist", [], .expression⟩,
    ⟨.makeRefKeyword, "__makeref", [], .expression⟩,
    ⟨.refTypeKeyword, "__reftype", [], .expression⟩,
    ⟨.refValueKeyword, "__refvalue", [], .expression⟩,
    ⟨.thisKeyword, "this", ["此"], .expression⟩,
    ⟨.baseKeyword, "base", ["基"], .expression⟩,
    ⟨.namespaceKeyword, "namespace", ["命名空间"], .declaration⟩,
    ⟨.usingKeyword, "using", ["用"], .declaration⟩,
    ⟨.classKeyword, "class", ["类"], .declaration⟩,
    ⟨.structKeyword, "struct", ["结构"], .declaration⟩,
    ⟨.interfaceKeyword, "interface", ["接口"], .declaration⟩,
    ⟨.enumKeyword, "enum", ["枚举"], .declaration⟩,
    ⟨.delegateKeyword, "delegate", ["委托"], .declaration⟩,
    ⟨.checkedKeyword, "checked", ["检查"], .expression⟩,
    ⟨.uncheckedKeyword, "unchecked", ["未检查"], .expression⟩,
    ⟨.unsafeKeyword, "unsafe", ["不安全"], .modifier⟩,
    ⟨.operatorKeyword, "operator", ["算符"], .declaration⟩,
    ⟨.explicitKeyword, "explicit", ["显式"], .declaration⟩,
    ⟨.implicitKeyword, "implicit", ["隐式"], .declaration⟩]

end Lexicon.Keyword
