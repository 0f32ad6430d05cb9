import Lexicon.Keyword.Group
import Lexicon.Kind.Category
import Lexicon.Spelling.Registry

/-!
# Contextual keywords

Words that are keywords in some positions and identifiers elsewhere. The underscore closes the block:
it is read like one of them but is a token of its own.
-/

namespace Lexicon.Keyword

/-- The contextual keywords, in the order of their kinds. -/
def contextual : Registry KeywordGroup where
  label := "contextual keywords"
  block := Category.contextualKeyword.bounds
  entries := [
    ⟨.yieldKeyword, "yield", ["生成"], .controlFlow⟩,
    ⟨.partialKeyword, "partial", ["部分"], .modifier⟩,
    ⟨.aliasKeyword, "alias", ["别名"], .declaration⟩,
    ⟨.globalKeyword, "global", ["全局"], .declaration⟩,
    ⟨.assemblyKeyword, "assembly", ["程序集"], .attributeTarget⟩,
    ⟨.moduleKeyword, "module", ["模块"], .attributeTarget⟩,
    ⟨.typeKeyword, "type", [], .attributeTarget⟩,
    ⟨.fieldKeyword, "field", ["字段"], .attributeTarget⟩,
    ⟨.methodKeyword, "method", ["方法"], .attributeTarget⟩,
    ⟨.paramKeyword, "param", ["参数"], .attributeTarget⟩,
    ⟨.propertyKeyword, "property", ["属性"], .attributeTarget⟩,
    ⟨.typeVarKeyword, "typevar", ["类型参数"], .attributeTarget⟩,
    ⟨.getKeyword, "get", ["取"], .accessor⟩,
    ⟨.setKeyword, "set", ["设"], .accessor⟩,
    ⟨.addKeyword, "add", ["添加"], .accessor⟩,
    ⟨.removeKeyword, "remove", ["删除"], .accessor⟩,
    ⟨.whereKeyword, "where", ["其中"], .query⟩,
    ⟨.fromKeyword, "from", ["从"], .query⟩,
    ⟨.groupKeyword, "group", ["分组"], .query⟩,
    ⟨.joinKeyword, "join", ["加入"], .query⟩,
    ⟨.intoKeyword, "into", ["至"], .query⟩,
    ⟨.letKeyword, "let", ["令"], .query⟩,
    ⟨.byKeyword, "by", ["以"], .query⟩,
    ⟨.selectKeyword, "select", ["选出"], .query⟩,
    ⟨.orderByKeyword, "orderby", ["排序"], .query⟩,
    ⟨.onKeyword, "on", ["在"], .query⟩,
    ⟨.equalsKeyword, "equals", ["等于"], .query⟩,
    ⟨.ascendingKeyword, "ascending", ["升序"], .query⟩,
    ⟨.descendingKeyword, "descending", ["降序"], .query⟩,
    ⟨.nameOfKeyword, "nameof", ["名称"], .expression⟩,
    ⟨.asyncKeyword, "async", ["异步"], .modifier⟩,
    ⟨.awaitKeyword, "await", ["等候"], .expression⟩,
    ⟨.whenKeyword, "when", ["若有"], .controlFlow⟩,
    ⟨.underscoreToken, "_", [], .expression⟩]

end Lexicon.Keyword
