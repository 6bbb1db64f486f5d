import TitleSieve.Variants.Converter
import TitleSieve.Variants.Dictionary

/-!
Conversion between the Chinese scripts by dictionaries: from the simplified script to the
traditional one as written in Taiwan with its idioms, and back. The dictionaries are lists of a key
and its value, written with a sign in between and separated by spaces. They are a short excerpt of
the dictionaries in use: a text with other characters and phrases is left as it is there.
-/

namespace TitleSieve.ChineseScripts

/-- Reads lines of entries `key=value` that are separated by spaces. -/
def entries (lines : List String) : Dictionary :=
  lines.flatMap fun line => (Text.words line.toList).filterMap (Text.cutAt? ['='])

def simplifiedPhrases : Dictionary := entries
  ["一只=一隻 万里=萬里 万里长城=萬里長城 丰富=豐富 乾隆=乾隆 什么=什麼 公里=公里",
   "关系=關係 制作=製作 制度=制度 北斗=北斗 历史=歷史 发发=發發 发展=發展 发现=發現",
   "只有=只有 台湾=臺灣 台风=颱風 后来=後來 复杂=複雜 头发=頭髮 干净=乾淨 干部=幹部",
   "恢复=恢復 数据=數據 数据库=數據庫 斗争=鬥爭 旅游=旅遊 日历=日曆 树干=樹幹 游戏=遊戲",
   "游泳=游泳 理发=理髮 理发店=理髮店 白云=白雲 皇后=皇后 系统=系統 联系=聯繫 范围=範圍",
   "里长=里長 里面=裏面 钟表=鐘錶 面包=麪包 面对=面對 面条=麪條 饼干=餅乾"]

def simplifiedCharacters : Dictionary := entries
  ["万=萬 与=與 丰=豐 为=爲 么=麼 争=爭 云=雲 体=體 关=關 内=內 净=淨 制=制 务=務 动=動",
   "历=歷 发=發 只=只 台=臺 叶=葉 吃=喫 后=後 启=啓 围=圍 国=國 复=復 头=頭 对=對 干=幹",
   "库=庫 戏=戲 据=據 数=數 斗=鬥 机=機 杂=雜 条=條 来=來 标=標 树=樹 游=遊 湾=灣 猫=貓",
   "现=現 画=畫 盘=盤 简=簡 系=系 组=組 络=絡 统=統 网=網 联=聯 范=範 表=表 视=視 认=認",
   "说=說 软=軟 里=裏 钟=鍾 长=長 面=面 频=頻 风=風 饼=餅"]

def taiwanIdioms : Dictionary := entries
  ["信息=資訊 內存=記憶體 字符=字元 字符串=字串 打印=列印 打印機=印表機 數據=資料",
   "數據庫=資料庫 服務器=伺服器 硬件=硬體 硬盤=硬碟 程序=程式 網絡=網路 聯繫=聯絡",
   "視頻=影片 軟件=軟體 默認=預設 鼠標=滑鼠"]

def taiwanCharacters : Dictionary := entries ["啓=啟 喫=吃 爲=為 着=著 裏=裡 麪=麵"]

def fromTaiwanPhrases : Dictionary := entries ["著作=著作"]

def fromTaiwanCharacters : Dictionary := entries ["么=幺 吃=喫 啟=啓 著=着 裡=裏 麵=麪"]

def traditionalPhrases : Dictionary := entries ["乾坤=乾坤 乾隆=乾隆 瞭解=了解"]

def traditionalCharacters : Dictionary := entries
  ["乾=干 動=动 啓=启 喫=吃 國=国 畫=画 瘋=疯 發=发 瞭=瞭 簡=简 組=组 絡=络 網=网 與=与",
   "葉=叶 裏=里 視=视 訊=讯 財=财 資=资 軟=软 頭=头 頻=频 體=体 髮=发 麪=面"]

def narrowMarks : Text := "-,.?!*".toList

def wideMarks : Text :=
  "　，。、；：？！…“”‘’『』「」﹁﹂—－（）《》〈〉～．／＼︒".toList ++
    "︑︔︓︿﹀︹︺︙︐［﹇］﹈︕︖︰︳︴︽︾︵︶｛︷｝︸﹃﹄【︻】︼".toList

/-- Blanks and punctuation separate the stretches that dictionaries are applied to. -/
def isSeparator (c : Char) : Bool :=
  Text.isBlank c || narrowMarks.contains c || wideMarks.contains c

def toTaiwan : List Stage :=
  [[simplifiedPhrases, simplifiedCharacters], [taiwanIdioms], [taiwanCharacters]]

def fromTaiwan : List Stage :=
  [[fromTaiwanPhrases, fromTaiwanCharacters], [traditionalPhrases, traditionalCharacters]]

def convert (stages : List Stage) (text : Text) : Text :=
  convertBetween isSeparator (convertStages stages) [] text

def library : ScriptLibrary where
  conversion? name :=
    if name = ScriptChoice.standard.nameA then some fun text => some (convert toTaiwan text)
    else if name = ScriptChoice.standard.nameB then some fun text => some (convert fromTaiwan text)
    else none

end TitleSieve.ChineseScripts
