import FormTemplate.Lexicon

/-!
# Builtin — the built-in lexicon

Labels, type keywords and choices for the forms of a school.
-/

namespace FormTemplate
namespace Lexicon

def builtinLabels : List (String × String) :=
  [("studentName", "学生姓名"), ("studentId", "学号"), ("className", "班级"),
   ("teacherName", "教师姓名"), ("schoolName", "学校名称"), ("parentName", "家长姓名"),
   ("gender", "性别"), ("age", "年龄"), ("birthday", "出生日期"), ("grade", "年级"),
   ("semester", "学期"), ("subject", "科目"), ("score", "分数"), ("level", "等级"),
   ("status", "状态"), ("date", "日期"), ("startDate", "开始日期"), ("endDate", "结束日期"),
   ("comment", "评语"), ("remark", "备注"), ("content", "内容"), ("title", "标题")]

def builtinTypeKeywords : List TypeKeyword :=
  [⟨"date", .date⟩, ⟨"time", .date⟩, ⟨"birthday", .date⟩, ⟨"day", .date⟩,
   ⟨"score", .number⟩, ⟨"age", .number⟩, ⟨"count", .number⟩, ⟨"amount", .number⟩,
   ⟨"price", .number⟩, ⟨"number", .number⟩, ⟨"quantity", .number⟩,
   ⟨"comment", .textarea⟩, ⟨"content", .textarea⟩, ⟨"description", .textarea⟩,
   ⟨"remark", .textarea⟩, ⟨"evaluation", .textarea⟩, ⟨"summary", .textarea⟩,
   ⟨"enabled", .boolean⟩, ⟨"confirmed", .boolean⟩, ⟨"agreed", .boolean⟩,
   ⟨"name", .text⟩]

def builtinOptionKeywords : List OptionKeyword :=
  [⟨"gender", ["男", "女"]⟩,
   ⟨"semester", ["第一学期", "第二学期"]⟩,
   ⟨"grade", ["一年级", "二年级", "三年级", "四年级", "五年级", "六年级"]⟩,
   ⟨"subject", ["语文", "数学", "英语", "科学", "道德与法治", "音乐", "体育", "美术"]⟩,
   ⟨"level", ["优秀", "良好", "合格", "待合格"]⟩,
   ⟨"status", ["在读", "休学", "毕业"]⟩]

def builtin : Lexicon :=
  ⟨Dictionary.ofEntries builtinLabels, builtinTypeKeywords, builtinOptionKeywords⟩

end Lexicon
end FormTemplate
